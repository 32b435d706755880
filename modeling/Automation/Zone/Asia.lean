/-
# Zones of Asia

One entry for each zone: its name, the offsets it ever had in seconds, the
changes between them, and the rule of later years (`Zone.Entry`).
-/
import Automation.Zone.Entry

namespace Automation.Zone

def asiaZones : List Entry := [
  ("Asia/Almaty", "18468 18000 21600 25200",
    ["-nu1a90B37a0d0Cqi27w0D9et80C9d440D9et80C9d440D9et80C9eys0D9d6w0C9d1c0D9d1c0C9d1c0D9d1c0C",
     "9d1c0D9d1c0C9d1c0D9d1c0C9d1c0D9d1c0C9d1c0D9q000Ciq5g0B5reo0C3ljw0D9d1c0C9d1c0D9d1c0C",
     "9d1c0D9d1c0C9d1c0D9d1c0C9q000Dasw00C7x6o0Dasw00C7x6o0Dasw00C7x6o0Db5uo0C7k800Db5uo0C",
     "7k800Db5uo0C7x6o0Dasw00C7x6o0Dasw00C7x6o0Db5uo0Ca37rs0B"],
    ""),
  ("Asia/Amman", "8624 7200 10800",
    ["-kcrtbkBm566fkC60l80Bawo40C7v980Bawo40C7v980Bayis0C9gnw0B9b9g0C7v980Bautg0C7v980B3e6840C",
     "9et80B9io40C9cyk0B9d440C9cyk0B9d440C9px80Bayis0C7rjw0Bag040C8a2k0B9zc40C8drw0Ba31g0C",
     "8zzw0B9d440C9cyk0B9d440C8n180Bag040C8a5c0Bafxc0C8n400Ba2yo0C8n400Ba2yo0C8n400Bepmo0C",
     "4deo0B9o5c0C9ew00B9b6o0C9ew00B9d1c0C9d1c0B9d1c0Casw00B7x6o0Cafxc0B8n400C9d1c0B9d1c0C",
     "asw00B7x6o0Casw00B7x6o0Cb5uo0B7k800Cb5uo0B7k800Cb5uo0B7x6o0Casw00B7x6o0Cwel80B51k40C",
     "b5uo0B7k800Cb5uo0B7x6o0Casw00B7x6o0Casw00B7x6o0Casw00B7x6o0Casw00B7x6o0Cb5uo0B7k800C",
     "b5uo0B64dc0C"],
    ""),
  ("Asia/Anadyr", "42596 43200 46800 50400 39600",
    ["-nu1sv8B379zj8Cqi27w0D9et80Cis040B9d440C9et80B9eys0C9d6w0B9d1c0C9d1c0B9d1c0C9d1c0B9d1c0C",
     "9d1c0B9d1c0C9d1c0B9d1c0C9d1c0B9d1c0C9q000Biq5g0E5reo0B3ljw0C9d1c0B9d1c0C9d1c0B9d1c0C",
     "9d1c0B9d1c0C9d1c0B9q000Casw00B7x6o0Casw00B7x6o0Casw00B7x6o0Cb5uo0B7k800Cb5uo0B7k800C",
     "b5uo0B7x6o0Casw00B7x6o0Casw00B7x6o0Cb5uo0B7k800Cb5uo0B7k800Cb5uo0B7k800Cb5uo0B7x6o0C",
     "asw00B7x6o0Casw00Bj3440E7k800B"],
    ""),
  ("Asia/Aqtau", "12064 14400 18000 21600",
    ["-nu15b4B379y74Cqrh3w0Diruk0C9d440D9et80C9eys0D9d6w0C9d1c0D9d1c0C9d1c0D9d1c0C9d1c0D9d1c0C",
     "9d1c0D9d1c0C9d1c0D9d1c0C9d1c0D9q000Ciq5g0B5reo0C3ljw0D9d1c0C9d1c0D9d1c0C9d1c0D9d1c0B",
     "9d440C9d1c0B9q000Casw00B7x6o0Casw00B7x6o0Casw00B7x6o0Cb5uo0B7k800Cb5uo0B7k800Cb5uo0B",
     "7x6o0Casw00B7x6o0Casw00B7x6o0C"],
    ""),
  ("Asia/Aqtobe", "13720 14400 18000 21600",
    ["-nu16l4B379zh4Cqi27w0Ds6qk0C9d440D9et80C9eys0D9d6w0C9d1c0D9d1c0C9d1c0D9d1c0C9d1c0D9d1c0C",
     "9d1c0D9d1c0C9d1c0D9d1c0C9d1c0D9q000Ciq5g0B5reo0C3ljw0D9d1c0C9d1c0D9d1c0C9d1c0D9d1c0C",
     "9d1c0D9d1c0C9q000Dasw00C7x6o0Dasw00C7x6o0Dasw00C7x6o0Db5uo0C7k800Db5uo0C7k800Db5uo0C",
     "7x6o0Dasw00C7x6o0Dasw00C7x6o0Db5uo0C"],
    ""),
  ("Asia/Ashgabat", "14012 14400 18000 21600",
    ["-nu16t8B379zp8Cqi27w0D9et80C9d440D9et80C9d440D9et80C9eys0D9d6w0C9d1c0D9d1c0C9d1c0D9d1c0C",
     "9d1c0D9d1c0C9d1c0D9d1c0C9d1c0D9d1c0C9d1c0D9q000Ciq5g0B5reo0C"],
    ""),
  ("Asia/Atyrau", "12464 10800 18000 21600 14400",
    ["-nu15m8B37a1a8Cqrh140Diruk0C9d440D9et80C9eys0D9d6w0C9d1c0D9d1c0C9d1c0D9d1c0C9d1c0D9d1c0C",
     "9d1c0D9d1c0C9d1c0D9d1c0C9d1c0D9q000Ciq5g0E5reo0C3ljw0D9d1c0C9d1c0D9d1c0C9d1c0D9d1c0C",
     "9d1c0D9d1c0C9q000Dasw00C7x6o0Dasw00C7x6o0Dasw00Cj3440E7k800Cb5uo0E7k800Cb5uo0E7x6o0C",
     "asw00E7x6o0Casw00E7x6o0C"],
    ""),
  ("Asia/Baghdad", "10660 10656 10800 14400",
    ["-15r1hk4Bem11c4Cxkn3w0D7v980C9b9g0D9gnw0C9eys0D9et80C9d440D9b9g0C9d1c0D9d1c0C9d1c0D",
     "9d1c0C9d1c0D9d1c0C9d1c0D9d1c0C9d1c0D9q000C9f1k0D9ew00C9ew00D9ew00C9d1c0D9ew00C9d1c0D",
     "9ew00C9d1c0D9ew00C9ew00D9ew00C9d1c0D9ew00C9d1c0D9ew00C9d1c0D9ew00C9ew00D9ew00C9d1c0D",
     "9ew00C9d1c0D9ew00C9d1c0D9ew00C9ew00D9ew00C9d1c0D9ew00C9d1c0D9ew00C9d1c0D9ew00C"],
    ""),
  ("Asia/Baku", "11964 10800 14400 18000",
    ["-nu158cBh4tkwcCckinw0D9et80C9d440D9et80C9d440D9et80C9eys0D9d6w0C9d1c0D9d1c0C9d1c0D9d1c0C",
     "9d1c0D9d1c0C9d1c0D9d1c0C9d1c0D9d1c0C9d1c0D9q000Ciq5g0B9d1c0C239ew0Dasw00C7x3w0Dasw00C",
     "7x6o0Dasw00C7x6o0Db5uo0C7k800Db5uo0C7k800Db5uo0C7x6o0Dasw00C7x6o0Dasw00C7x6o0Db5uo0C",
     "7k800Db5uo0C7k800Db5uo0C7k800Db5uo0C7x6o0Dasw00C7x6o0Dasw00C7x6o0Db5uo0C7k800Db5uo0C",
     "7k800Db5uo0C7x6o0Dasw00C7x6o0Dasw00C7x6o0Dasw00C"],
    ""),
  ("Asia/Bangkok", "24124 25200", ["-pysda4B"], ""),
  ("Asia/Barnaul", "20100 21600 25200 28800",
    ["-q4ljicB5hu6ucCqi27w0D9et80C9d440D9et80C9d440D9et80C9eys0D9d6w0C9d1c0D9d1c0C9d1c0D9d1c0C",
     "9d1c0D9d1c0C9d1c0D9d1c0C9d1c0D9d1c0C9d1c0D9q000Ciq5g0B5reo0C3ljw0D9d1c0C9d1c0D9d1c0C",
     "9d1c0D9d1c0C9d1c0D38fo0C64og0B9q000Casw00B7x6o0Casw00B7x6o0Casw00B7x6o0Cb5uo0B7k800C",
     "b5uo0B7k800Cb5uo0B7x6o0Casw00B7x6o0Casw00B7x6o0Cb5uo0B7k800Cb5uo0B7k800Cb5uo0B7k800C",
     "b5uo0B7x6o0Casw00B7x6o0Casw00B7x6o0Cb5uo0B7k800C1vbzw0Bqnc40C"],
    ""),
  ("Asia/Beirut", "8520 7200 10800",
    ["-1ayy98oBkzyucoCaunw0B88dg0C9et80B8yas0Ca2vw0Ba31g0C7k580Bhjqo40C7v980Bawo40C7v980B",
     "awo40C7v980Bayis0C7v980Bawo40C7v980B5lhs40C56yk0Bawo40C7v980Bawo40C7v980Bawo40C7v980B",
     "ayis0C7v980Bawo40C7v980Bautg0C7v980B2wxus0C8n180Ba4w40C8n180Ba4w40C8n180Ba4w40C8n180B",
     "bs5g0C71mk0Balk40C86d80Ba4w40C8n180Ba4w40C8n180Ba6qs0C80t80B905g0C9cyk0B9d440C9cyk0B",
     "9d440C9cyk0B9q2s0C9cyk0B9d440C9cyk0B9d440C9cyk0B9d440C"],
    "7200 10800 3 5 0 0 10 5 0 0"),
  ("Asia/Bishkek", "17904 18000 21600 25200",
    ["-nu19tcB379zxcCqi27w0D9et80C9d440D9et80C9d440D9et80C9eys0D9d6w0C9d1c0D9d1c0C9d1c0D9d1c0C",
     "9d1c0D9d1c0C9d1c0D9d1c0C9d1c0D9d1c0C9d1c0D9q000Ch8dc0Bbkl80C8n180Ba31g0C8n180Ba31g0C",
     "8n180Ba31g0C8n180Ba31g0C8zzw0B9db20Cast80B7x9g0Cast80B7x9g0Cb5rw0B7kas0Cb5rw0B7kas0C",
     "b5rw0B7x9g0Cast80B7x9g0Cast80B7x9g0Cb5rw0B7kas0C"],
    ""),
  ("Asia/Chita", "27232 28800 32400 36000",
    ["-q4cfogB5hkxggCqi27w0D9et80C9d440D9et80C9d440D9et80C9eys0D9d6w0C9d1c0D9d1c0C9d1c0D9d1c0C",
     "9d1c0D9d1c0C9d1c0D9d1c0C9d1c0D9d1c0C9d1c0D9q000Ciq5g0B5reo0C3ljw0D9d1c0C9d1c0D9d1c0C",
     "9d1c0D9d1c0C9d1c0D9d1c0C9q000Dasw00C7x6o0Dasw00C7x6o0Dasw00C7x6o0Db5uo0C7k800Db5uo0C",
     "7k800Db5uo0C7x6o0Dasw00C7x6o0Dasw00C7x6o0Db5uo0C7k800Db5uo0C7k800Db5uo0C7k800Db5uo0C",
     "7x6o0Dasw00C7x6o0Dasw00C7x6o0Db5uo0C7k800D1vbzw0Bqnew0C"],
    ""),
  ("Asia/Colombo", "19164 19172 19800 21600 23400",
    ["-1ayyhgcBdkh6nsCisle6kDcajy0E1mp2u0Cqetjw0E7x5a0D4xvqq0C"],
    ""),
  ("Asia/Damascus", "8712 7200 10800",
    ["-q3gk20B5k6q0C8n180Ba31g0C8n180Ba31g0C8n180Ba31g0C8zzw0Bk4hk40C7yyk0Bawo40C7tek0Bb0dg0C",
     "7v980Bawo40C7tek0Balk40C887w0Bawo40C7v980Bayis0C7v980Bawo40C7v980Bawo40C7v980Bawo40C",
     "7v980Bayis0C7v980Bawo40C7v980Bawo40C7v980Bawo40C7v980Bayis0C7v980Bawo40C6bp80Bcg840C",
     "6bp80B2eh1g0C8zzw0B9ts40C8zzw0Bpvk40Cc33w0B7cw40Ccjrw0B6zxg0Cbtuk0B7rpg0C9gnw0B9d440C",
     "9cyk0B9et80C9et80B9rxg0C91uk0B92040C9et80B9o840C9et80B9d440C9et80B9eys0C9et80B9b9g0C",
     "9gnw0B99es0C9iik0B9d440C9et80B9eys0C9et80B9d440C9et80B9d440C9et80B9d440C9et80B9eys0C",
     "9et80B9d440C9et80B9d440C8y580B9q2s0Cb5rw0B7x9g0Caunw0B7ig40Cb5rw0B7x9g0Cast80B7x9g0C",
     "ast80B7x9g0Cast80B7x9g0Cast80B7x9g0Cb5rw0B7kas0Cb5rw0B7kas0Cb5rw0B7x9g0Cast80B7x9g0C",
     "ast80B7x9g0Cast80B7x9g0Cb5rw0B7kas0Cb5rw0B7kas0C"],
    ""),
  ("Asia/Dhaka", "21700 21200 23400 19800 21600 25200",
    ["-15r1q2sBr080dwCbmgywD5lxg0C4qknw0Eu4ijy0Fa1400E"],
    ""),
  ("Asia/Dili", "30140 28800 32400", ["-u9s3k0Bfqct80Chufs00Bcpz440C"], ""),
  ("Asia/Dubai", "13272 14400", ["-q3gnkoB"], ""),
  ("Asia/Dushanbe", "16512 18000 21600 25200",
    ["-nu18qoB379yuoCqi27w0D9et80C9d440D9et80C9d440D9et80C9eys0D9d6w0C9d1c0D9d1c0C9d1c0D9d1c0C",
     "9d1c0D9d1c0C9d1c0D9d1c0C9d1c0D9d1c0C9d1c0D9q000Chp440B"],
    ""),
  ("Asia/Famagusta", "8148 7200 10800",
    ["-p4bqacBrvhy2cC9cyk0Bb42s0C7nuk0B8yas0C8zzw0B9q2s0C9et80B9b9g0C9cyk0B9q2s0C8zzw0B9d440C",
     "9cyk0B9d440C9cyk0B9d440C9cyk0B9d440C9px80B9d440C9cyk0B9d440C9cyk0B9d440C9cyk0B9d440C",
     "9cyk0B9d440C9cyk0B9d440C9px80B9d440C9cyk0B9d440C9cyk0B9d440C9cyk0B9d440C9cyk0B9d440C",
     "9cyk0B9q2s0C9cyk0B9d440C9cyk0B9d440Cat4c0B7x6o0Cb5uo0B7k800Cb5uo0B7k800Cb5uo0B7x6o0C",
     "asw00B7x6o0Casw00B7x6o0Cb5uo0B7k800Cb5uo0B7k800Cb5uo0B7k800Cb5uo0B7x6o0Casw00B7x6o0C",
     "asw00B7x6o0Cb5uo0B7k800Cb5uo0B7k800Cb5uo0B7x6o0Casw00B7x6o0Casw00B7x6o0Casw00B7x6o0C",
     "tvxc0B"],
    "7200 10800 3 5 0 10800 10 5 0 14400"),
  ("Asia/Gaza", "8272 7200 10800",
    ["-1054x1sBkp9t1sC69xc0B2f1c0C10q800B7rmo0Cb0ao0B7thc0Cb0ao0B8jeo0Ca8io0B8jeo0Ca8io0B",
     "5hoig0C7el80Bawo40C7v980Bawqw0C7tk40Bb07w0C7tk40Bayd80C7tk40Bayd80C7tk40Bayd80C7tk40B",
     "b07w0C7tk40Bayd80C7tk40Bayd80C7ves0Bawik0C1sns0B3p6is0C51ek0B9q2s0C6u7w0B2kjk40C25s00B",
     "1weyo0C5reo0Bbvs00C776k0Bdbpg0C5rbw0Bbbhg0C7rjw0Basys0C7k580Bc8tg0C6h980Bag040C7x3w0B",
     "asys0C8a2k0Basys0C8a2k0Bap9g0C80t80Bap9g0C7nuk0Bb2840C80t80Bb2840C8n400Ba2yo0C8n400B",
     "a2yo0C8n400Basw00C9cyk0B9q2s0C9cyk0B9d440C9cyk0B9d440C9cyk0B9d440C9cyk0B9d440C8n400B",
     "a2yo0C8ulg0B97ek0C8y580B9ts40C8hms0Ba4qk0C7x3w0Basys0C8a5c0Bahs1oC71micBbzk5oC69uicB",
     "cg840C902o0B9q000C9cyk0B9d440Cast80B7z440Car1c0B7z440Cb5rw0B7kas0Cb5rw0B7kas0Cb5rw0B",
     "7vc00Caunw0B7x9g0Casw00B7x6o0Cb4000B7nxc0Cb42s0B9d440C9cyk0B905g0C9px80B8n6s0Ca2vw0B",
     "7x9g0Cast80B7x9g0Cb5rw0B7kas0Cb5rw0B7kas0Cb5rw0B7x9g0Cast80B7x9g0Cast80B7x9g0Cb5rw0B",
     "7kas0Cb5rw0B7kas0Cb5rw0B7kas0Cb5rw0B7x9g0Cafuk0B8a840Ca2vw0B8n6s0C9cyk0B9d440C8zzw0B",
     "9q2s0C8a2k0B2itg0Ccvw0B7x9g0C7k580B25us0C12t80B7x9g0C776k0B25us0C1frw0B7x9g0C6h980B",
     "2itg0C1sqk0B7x9g0C64ak0B25us0C2vmk0B7kas0C5rbw0B25us0C38l80B7kas0C51ek0B2itg0C3ljw0B",
     "7x9g0C4bh80B25us0C4bh80B7x9g0C3ljw0B2itg0C4ofw0B7x9g0C38l80B25us0C5rbw0B7kas0C2vmk0B",
     "25us0C64ak0B7kas0C25p80B2itg0C6h980B7x9g0C1frw0B25us0C776k0B7x9g0Cpuk0B2itg0C7k580B",
     "7x9g0Ccvw0B2itg0C7x3w0Ba31g0C8zzw0B9d440C9cyk0B8n6s0Ca2vw0B8a840Cafuk0B7x9g0Cast80B",
     "7x9g0Cb5rw0B7kas0Cb5rw0B7kas0Cb5rw0B7kas0Cb5rw0B7x9g0Cast80B7x9g0Cast80B7x9g0Cb5rw0B",
     "7kas0Cb5rw0B7kas0Cast80B8a840Ca2vw0B8n6s0C9px80B905g0C8zzw0B9q2s0C8n180B25us0Ccvw0B",
     "7kas0C8a2k0B25us0Cpuk0B7kas0C7k580B2itg0C12t80B7x9g0C6u7w0B25us0C1sqk0B7x9g0C64ak0B",
     "2itg0C25p80B7x9g0C5rbw0B2itg0C2vmk0B7kas0C5ed80B25us0C3ljw0B7kas0C4ofw0B2itg0C3yik0B",
     "7x9g0C3yik0B25us0C4ofw0B7x9g0C3ljw0B25us0C51ek0B7x9g0C2vmk0B2itg0C5ed80B7x9g0C2inw0B",
     "25us0C6h980B7kas0C1sqk0B2itg0C6u7w0B7kas0C1frw0B2itg0C776k0B7x9g0Cpuk0B25us0C"],
    "7200 10800 3 4 4 180000 10 4 4 180000"),
  ("Asia/Hebron", "8423 7200 10800",
    ["-1054x5zBkp9t5zC69xc0B2f1c0C10q800B7rmo0Cb0ao0B7thc0Cb0ao0B8jeo0Ca8io0B8jeo0Ca8io0B",
     "5hoig0C7el80Bawo40C7v980Bawqw0C7tk40Bb07w0C7tk40Bayd80C7tk40Bayd80C7tk40Bayd80C7tk40B",
     "b07w0C7tk40Bayd80C7tk40Bayd80C7ves0Bawik0C1sns0B3p6is0C51ek0B9q2s0C6u7w0B2kjk40C25s00B",
     "1weyo0C5reo0Bbvs00C776k0Bdbpg0C5rbw0Bbbhg0C7rjw0Basys0C7k580Bc8tg0C6h980Bag040C7x3w0B",
     "asys0C8a2k0Basys0C8a2k0Bap9g0C80t80Bap9g0C7nuk0Bb2840C80t80Bb2840C8n400Ba2yo0C8n400B",
     "a2yo0C8n400Basw00C9cyk0B9q2s0C9cyk0B9d440C9cyk0B9d440C9cyk0B9d440C9cyk0B9d440C8n400B",
     "a2yo0C8ulg0B97ek0C8y580B9ts40C8hms0Ba4qk0C82nw0Banes0C8a5c0Bafxc0C73h80Bbzk5oC69uicB",
     "1hs40C1lbw0B9d440C902o0B9q000C9cyk0B9d440Cast80B7z440Car1c0B7z440Cb5rw0B7kas0Cb5rw0B",
     "7kas0Cb5rw0B7vc00Caunw0B7x9g0Casw00B7x6o0Cb4000B7nxc0Cb42s0B9d440C9cyk0B905g0C9px80B",
     "8n6s0Ca2vw0B7x9g0Cast80B7x9g0Cb5rw0B7kas0Cb5rw0B7kas0Cb5rw0B7x9g0Cast80B7x9g0Cast80B",
     "7x9g0Cb5rw0B7kas0Cb5rw0B7kas0Cb5rw0B7kas0Cb5rw0B7x9g0Cafuk0B8a840Ca2vw0B8n6s0C9cyk0B",
     "9d440C8zzw0B9q2s0C8a2k0B2itg0Ccvw0B7x9g0C7k580B25us0C12t80B7x9g0C776k0B25us0C1frw0B",
     "7x9g0C6h980B2itg0C1sqk0B7x9g0C64ak0B25us0C2vmk0B7kas0C5rbw0B25us0C38l80B7kas0C51ek0B",
     "2itg0C3ljw0B7x9g0C4bh80B25us0C4bh80B7x9g0C3ljw0B2itg0C4ofw0B7x9g0C38l80B25us0C5rbw0B",
     "7kas0C2vmk0B25us0C64ak0B7kas0C25p80B2itg0C6h980B7x9g0C1frw0B25us0C776k0B7x9g0Cpuk0B",
     "2itg0C7k580B7x9g0Ccvw0B2itg0C7x3w0Ba31g0C8zzw0B9d440C9cyk0B8n6s0Ca2vw0B8a840Cafuk0B",
     "7x9g0Cast80B7x9g0Cb5rw0B7kas0Cb5rw0B7kas0Cb5rw0B7kas0Cb5rw0B7x9g0Cast80B7x9g0Cast80B",
     "7x9g0Cb5rw0B7kas0Cb5rw0B7kas0Cast80B8a840Ca2vw0B8n6s0C9px80B905g0C8zzw0B9q2s0C8n180B",
     "25us0Ccvw0B7kas0C8a2k0B25us0Cpuk0B7kas0C7k580B2itg0C12t80B7x9g0C6u7w0B25us0C1sqk0B7x9g0C",
     "64ak0B2itg0C25p80B7x9g0C5rbw0B2itg0C2vmk0B7kas0C5ed80B25us0C3ljw0B7kas0C4ofw0B2itg0C",
     "3yik0B7x9g0C3yik0B25us0C4ofw0B7x9g0C3ljw0B25us0C51ek0B7x9g0C2vmk0B2itg0C5ed80B7x9g0C",
     "2inw0B25us0C6h980B7kas0C1sqk0B2itg0C6u7w0B7kas0C1frw0B2itg0C776k0B7x9g0Cpuk0B25us0C"],
    "7200 10800 3 4 4 180000 10 4 4 180000"),
  ("Asia/Ho_Chi_Minh", "25590 25200 28800 32400",
    ["-umdqeuBgj25iuC15ct80D8so00Btmtk0C4azmo0B2cm7w0C8285c0B"],
    ""),
  ("Asia/Hong_Kong", "27402 28800 32400 30600",
    ["-y0i0s0Bj44dk0C5k000D4d4y0C2195i0B7x3w0Cbj320B6uao0Cbvs00B7x6o0C9d1c0B7x6o0Casw00B7x6o0C",
     "asw00B7x6o0Casw00B8a5c0Casw00B7x6o0Cast80B77c40Cbiqk0B77c40Cbvp80B6udg0Cbvp80B77c40C",
     "biqk0B77c40Cbiqk0B77c40Cbiqk0B77c40Cbvp80B6udg0Cbvp80B6udg0Cbvp80B77c40Cbiqk0B77c40C",
     "biqk0B8n6s0C9cyk0B9d440C9cyk0B9d440C9px80B9d440C9cyk0B9d440C9cyk0B9d440C9cyk0B9d440C",
     "9cyk0B9d440C9px80B9d440C9cyk0B3lpg0Cf4d80B9d440C9cyk0B9d440C9cyk0B1c9440C8a2k0B"],
    ""),
  ("Asia/Hovd", "21996 21600 25200 28800",
    ["-xmcoz0B11sncb0C2qk2k0D9et80C9eys0D9cyk0C9d440D9cyk0C9d440D9cyk0C9d440D9cyk0C9d440D",
     "9cyk0C9d440D9cyk0C9d440D9px80C9d440D9cyk0C9d440D9cyk0C9d440D9cyk0C9d440D9cyk0C9d440D",
     "9cyk0C9q2s0D9cyk0C9d440D9cyk0C9d440D9cyk0C1ckdo0D7x3w0C9d440D9cyk0C9d440D9cyk0C9d440D",
     "9cyk0C9d440D9cyk0C9d440D9px80C4fio40D9ct00C9d9o0D9ct00C"],
    ""),
  ("Asia/Irkutsk", "25025 25200 28800 32400",
    ["-q28gn5B5fh175Cqi27w0D9et80C9d440D9et80C9d440D9et80C9eys0D9d6w0C9d1c0D9d1c0C9d1c0D9d1c0C",
     "9d1c0D9d1c0C9d1c0D9d1c0C9d1c0D9d1c0C9d1c0D9q000Ciq5g0B5reo0C3ljw0D9d1c0C9d1c0D9d1c0C",
     "9d1c0D9d1c0C9d1c0D9d1c0C9q000Dasw00C7x6o0Dasw00C7x6o0Dasw00C7x6o0Db5uo0C7k800Db5uo0C",
     "7k800Db5uo0C7x6o0Dasw00C7x6o0Dasw00C7x6o0Db5uo0C7k800Db5uo0C7k800Db5uo0C7k800Db5uo0C",
     "7x6o0Dasw00C7x6o0Dasw00C7x6o0Db5uo0C7k800D1vbzw0C"],
    ""),
  ("Asia/Jakarta", "25632 26400 27000 32400 28800 25200",
    ["-o0bdpcB4lzxc0C4wdzjcD1tu960C1cx860E11jta0C74uc20F"],
    ""),
  ("Asia/Jayapura", "33768 32400 34200", ["-jebm20B66bqe0Ca37vy0B"], ""),
  ("Asia/Jerusalem", "8454 8440 7200 10800 14400",
    ["-1ayy96uBjtxuoeCbp5aigD69xc0C2f1c0D10q800C7rmo0Db0ao0C7thc0Db0ao0C8jeo0Da8io0C8jeo0D",
     "a8io0Ct9pc0E571c0D34yo0C9b6o0D9gqo0C8jeo0D7thc0Ca6o00Dbitc0C8a5c0D9d1c0C902o0D7x6o0C",
     "e1k00D4oio0Ce1k00D4oio0Cdolc0D64dc0Casw00D7k800C8rfeg0D51ek0C9q2s0D6u7w0C2kjk40D25s00C",
     "1weyo0D5reo0Cbvs00D776k0Cdbpg0D5rbw0Cbbhg0D7rjw0Casys0D7k580Cc8tg0D6h980Cag040D7x3w0C",
     "asys0D8a2k0Casys0D8a2k0Cap9g0D80t80Cap9g0D7nuk0Cb2840D80t80C9zc40D9iik0C9kis0D93p80C",
     "9mdg0D8qqk0Capf00D7x3w0Cbiw40D8zx40C9io40D8n180C9kis0D9vh80C8ulg0D9px80C9mdg0D8n180C",
     "9tuw0D9tmk0C8wg40D9gnw0C99es0D8qqk0C9zc40D9tmk0C8wg40D9gnw0C99es0D8qqk0Cacas0D9gnw0C",
     "99es0D93p80C9mdg0D"],
    "7200 10800 3 4 4 93600 10 5 0 7200"),
  ("Asia/Kabul", "16608 14400 16200", ["-15r1m5cBspc1pcC"], ""),
  ("Asia/Kamchatka", "38076 39600 43200 46800",
    ["-olrupoB3z045oCqi27w0D9et80C9d440D9et80C9d440D9et80C9eys0D9d6w0C9d1c0D9d1c0C9d1c0D9d1c0C",
     "9d1c0D9d1c0C9d1c0D9d1c0C9d1c0D9d1c0C9d1c0D9q000Ciq5g0B5reo0C3ljw0D9d1c0C9d1c0D9d1c0C",
     "9d1c0D9d1c0C9d1c0D9d1c0C9q000Dasw00C7x6o0Dasw00C7x6o0Dasw00C7x6o0Db5uo0C7k800Db5uo0C",
     "7k800Db5uo0C7x6o0Dasw00C7x6o0Dasw00C7x6o0Db5uo0C7k800Db5uo0C7k800Db5uo0C7k800Db5uo0C",
     "7x6o0Dasw00C7x6o0Dasw00Cj3440B7k800C"],
    ""),
  ("Asia/Karachi", "16092 19800 23400 18000 21600",
    ["-wvpb30Bim3zt0C1mn180B33xpg0Dqd6eq0E9cyk0D2y85g0E7v980D8hms0Eaaak0D"],
    ""),
  ("Asia/Kathmandu", "20476 19800 20700", ["-q3gt4sByg2lusC"], ""),
  ("Asia/Khandyga", "32533 28800 32400 36000 39600",
    ["-q4cjrpB5hl1jpCqi27w0D9et80C9d440D9et80C9d440D9et80C9eys0D9d6w0C9d1c0D9d1c0C9d1c0D9d1c0C",
     "9d1c0D9d1c0C9d1c0D9d1c0C9d1c0D9d1c0C9d1c0D9q000Ciq5g0B5reo0C3ljw0D9d1c0C9d1c0D9d1c0C",
     "9d1c0D9d1c0C9d1c0D9d1c0C9q000Dasw00C7x6o0Dasw00C7x6o0Dasw00C7x6o0Db5uo0C7k800Db5uo0C",
     "7k800Db5uo0C7x6o0Dasw00C7x6o0Dasw00C3fx40D4h6s0Eb5uo0D7k800Eb5uo0D7k800Eb5uo0D7k800E",
     "b5uo0D7x6o0Easw00D7x6o0Easw00D7x6o0Eb5uo0D7k800E8ql00D1mlho0C"],
    ""),
  ("Asia/Kolkata", "21208 21200 19270 19800 23400",
    ["-1oaa314B83glc8Cisc6tmDinnm9aEbmfw0D5lxg0E1mn180D"],
    ""),
  ("Asia/Krasnoyarsk", "22286 21600 25200 28800",
    ["-q37l72B5gg8j2Cqi27w0D9et80C9d440D9et80C9d440D9et80C9eys0D9d6w0C9d1c0D9d1c0C9d1c0D9d1c0C",
     "9d1c0D9d1c0C9d1c0D9d1c0C9d1c0D9d1c0C9d1c0D9q000Ciq5g0B5reo0C3ljw0D9d1c0C9d1c0D9d1c0C",
     "9d1c0D9d1c0C9d1c0D9d1c0C9q000Dasw00C7x6o0Dasw00C7x6o0Dasw00C7x6o0Db5uo0C7k800Db5uo0C",
     "7k800Db5uo0C7x6o0Dasw00C7x6o0Dasw00C7x6o0Db5uo0C7k800Db5uo0C7k800Db5uo0C7k800Db5uo0C",
     "7x6o0Dasw00C7x6o0Dasw00C7x6o0Db5uo0C7k800D1vbzw0C"],
    ""),
  ("Asia/Kuching", "26480 27000 28800 30000 32400",
    ["-mvof3kB3khwxkC1epvy0D4ohqoCe5a9cD4ohqoCe3flcD4ohqoCe3flcD4ohqoCe3flcD4ohqoCe5a9cD4ohqoC",
     "e3flcD4ohqoC3ajlcE1v2qk0C"],
    ""),
  ("Asia/Macau", "27250 28800 32400 36000",
    ["-y0i2cyBjdvyoyC6onw0Dac580C8fs40D7v980C11luw0Bawlc0C7vc00Bac800Cbko00B7x6o0C9d1c0B7vc00C",
     "asw00B7x6o0Casw00B7x6o0Cauqo0B88ao0Casw00B7x6o0Casw00B779c0Cbitc0B779c0Cbvs00B6uao0C",
     "bw1q0B77c40Cbiqk0B77c40Cbiqk0B77c40Cbiqk0B77c40Cbvp80B6udg0Cbvp80B6udg0Cbvp80B77c40C",
     "biqk0B77c40Cbiqk0B8n6s0C9cvs0B9d6w0C9cvs0B9d6w0C9px80B9d440C9cyk0B9d440C9cyk0B9d440C",
     "9cyk0B9d440C9cyk0B9d440C9px80B9d440C9cyk0B3lpg0Cf4d80B9d440C9cyk0B9d440C9cyk0B1c9440C",
     "8a2k0B"],
    ""),
  ("Asia/Magadan", "36192 36000 39600 43200",
    ["-nu1nxcB37a05cCqi27w0D9et80C9d440D9et80C9d440D9et80C9eys0D9d6w0C9d1c0D9d1c0C9d1c0D9d1c0C",
     "9d1c0D9d1c0C9d1c0D9d1c0C9d1c0D9d1c0C9d1c0D9q000Ciq5g0B5reo0C3ljw0D9d1c0C9d1c0D9d1c0C",
     "9d1c0D9d1c0C9d1c0D9d1c0C9q000Dasw00C7x6o0Dasw00C7x6o0Dasw00C7x6o0Db5uo0C7k800Db5uo0C",
     "7k800Db5uo0C7x6o0Dasw00C7x6o0Dasw00C7x6o0Db5uo0C7k800Db5uo0C7k800Db5uo0C7k800Db5uo0C",
     "7x6o0Dasw00C7x6o0Dasw00C7x6o0Db5uo0C7k800D1vbzw0Bs39k0C"],
    ""),
  ("Asia/Makassar", "28656 28800 32400", ["-jebi40B4u87w0C1w02k0B"], ""),
  ("Asia/Manila", "-57368 29032 28800 32400",
    ["-1t8ix2gBsjc9igCje0pc0D3wnw0C2kc5g0D22dp80C4d3ms0D2rx80Cbwlpg0D95jw0C6lv1g0D3jp80C"],
    ""),
  ("Asia/Nicosia", "8008 7200 10800",
    ["-p4bq6gBrvhxygC9cyk0Bb42s0C7nuk0B8yas0C8zzw0B9q2s0C9et80B9b9g0C9cyk0B9q2s0C8zzw0B9d440C",
     "9cyk0B9d440C9cyk0B9d440C9cyk0B9d440C9px80B9d440C9cyk0B9d440C9cyk0B9d440C9cyk0B9d440C",
     "9cyk0B9d440C9cyk0B9d440C9px80B9d440C9cyk0B9d440C9cyk0B9d440C9cyk0B9d440C9cyk0B9d440C",
     "9cyk0B9q2s0C9cyk0B9d440C9cyk0B9d440Cat4c0B"],
    "7200 10800 3 5 0 10800 10 5 0 14400"),
  ("Asia/Novokuznetsk", "20928 21600 25200 28800",
    ["-nu36tcB37bu5cCqi27w0D9et80C9d440D9et80C9d440D9et80C9eys0D9d6w0C9d1c0D9d1c0C9d1c0D9d1c0C",
     "9d1c0D9d1c0C9d1c0D9d1c0C9d1c0D9d1c0C9d1c0D9q000Ciq5g0B5reo0C3ljw0D9d1c0C9d1c0D9d1c0C",
     "9d1c0D9d1c0C9d1c0D9d1c0C9q000Dasw00C7x6o0Dasw00C7x6o0Dasw00C7x6o0Db5uo0C7k800Db5uo0C",
     "7k800Db5uo0C7x6o0Dasw00C7x6o0Dasw00C7x6o0Db5uo0C7k800Db5uo0C7k800Db5uo0C7k800Db5uo0C",
     "7x6o0Dasw00C7x6o0Dasw00Cj3440B7k800C"],
    ""),
  ("Asia/Novosibirsk", "19900 21600 25200 28800",
    ["-q4do0sB5hmbcsCqi27w0D9et80C9d440D9et80C9d440D9et80C9eys0D9d6w0C9d1c0D9d1c0C9d1c0D9d1c0C",
     "9d1c0D9d1c0C9d1c0D9d1c0C9d1c0D9d1c0C9d1c0D9q000Ciq5g0B5reo0C3ljw0D9d1c0C9d1c0D2vh00C",
     "6hn40B9d1c0C9d1c0B9d1c0C9d1c0B9q000Casw00B7x6o0Casw00B7x6o0Casw00B7x6o0Cb5uo0B7k800C",
     "b5uo0B7k800Cb5uo0B7x6o0Casw00B7x6o0Casw00B7x6o0Cb5uo0B7k800Cb5uo0B7k800Cb5uo0B7k800C",
     "b5uo0B7x6o0Casw00B7x6o0Casw00B7x6o0Cb5uo0B7k800C1vbzw0Bwrpg0C"],
    ""),
  ("Asia/Omsk", "17610 18000 21600 25200",
    ["-q5xmx6B5j6d16Cqi27w0D9et80C9d440D9et80C9d440D9et80C9eys0D9d6w0C9d1c0D9d1c0C9d1c0D9d1c0C",
     "9d1c0D9d1c0C9d1c0D9d1c0C9d1c0D9d1c0C9d1c0D9q000Ciq5g0B5reo0C3ljw0D9d1c0C9d1c0D9d1c0C",
     "9d1c0D9d1c0C9d1c0D9d1c0C9q000Dasw00C7x6o0Dasw00C7x6o0Dasw00C7x6o0Db5uo0C7k800Db5uo0C",
     "7k800Db5uo0C7x6o0Dasw00C7x6o0Dasw00C7x6o0Db5uo0C7k800Db5uo0C7k800Db5uo0C7k800Db5uo0C",
     "7x6o0Dasw00C7x6o0Dasw00C7x6o0Db5uo0C7k800D1vbzw0C"],
    ""),
  ("Asia/Oral", "12324 10800 18000 21600 14400",
    ["-nu15icB37a16cCqi2540Ds6qk0C9d440D9et80C9eys0D9d6w0C9d1c0D9d1c0C9d1c0D9d1c0C9d1c0D9d1c0C",
     "9d1c0D9d1c0Ciq5g0E9d1c0C9q000E9d1c0C9d1c0E5reo0Ccyo00E9d1c0C9d1c0E9d1c0C9d1c0E9d1c0C",
     "9d1c0E9q000Casw00E7x6o0Casw00E7x6o0Casw00E7x6o0Cb5uo0E7k800Cb5uo0E7k800Cb5uo0E7x6o0C",
     "asw00E7x6o0Casw00E7x6o0C"],
    ""),
  ("Asia/Pontianak", "26240 27000 32400 28800 25200",
    ["-jebg8wB4tnu2wC1wkei0B1cx860D11jta0B74uc20Dcixam0E"],
    ""),
  ("Asia/Pyongyang", "30180 30600 32400", ["-w895ycB1yh10cC1i2uzy0B1f4qo0C"], ""),
  ("Asia/Qatar", "12368 14400 10800", ["-q3gmvkBrctnrkC"], ""),
  ("Asia/Qostanay", "15268 14400 18000 21600",
    ["-nu17s4B37a0o4Cqi27w0Ds6qk0C9d440D9et80C9eys0D9d6w0C9d1c0D9d1c0C9d1c0D9d1c0C9d1c0D9d1c0C",
     "9d1c0D9d1c0C9d1c0D9d1c0C9d1c0D9q000Ciq5g0B5reo0C3ljw0D9d1c0C9d1c0D9d1c0C9d1c0D9d1c0C",
     "9d1c0D9d1c0C9q000Dasw00C7x6o0Dasw00C7x6o0Dasw00C7x6o0Db5uo0C7k800Db5uo0C7k800Db5uo0C",
     "7x6o0Dasw00C7x6o0Dasw00C7x6o0Daedjo0C"],
    ""),
  ("Asia/Qyzylorda", "15712 14400 18000 21600",
    ["-nu184gB37a10gCqi27w0Ds6qk0C9d440D9et80C9eys0D9d6w0C9d1c0D9d1c0C9d1c0D9d1c0C9d1c0D9d1c0C",
     "9d1c0D9d1c0C9d1c0D9d1c0C9d1c0D9q000Cohhc0Dcyo00C9d1c0D9d1c0C9d1c0D9d1c0C9d1c0D9d1c0C",
     "9q000Dasw00C7x6o0Dasw00C7x6o0Dasw00C7x6o0Db5uo0C7k800Db5uo0C7k800Db5uo0C7x6o0Dasw00C",
     "7x6o0Dasw00C7x6o0D7osl00C"],
    ""),
  ("Asia/Riyadh", "11212 10800", ["-bwgbbgB"], ""),
  ("Asia/Sakhalin", "34248 32400 39600 43200 36000",
    ["-xl87rcBkvnarcCikvh40D9et80C9d440D9et80C9d440D9et80C9eys0D9d6w0C9d1c0D9d1c0C9d1c0D9d1c0C",
     "9d1c0D9d1c0C9d1c0D9d1c0C9d1c0D9d1c0C9d1c0D9q000Ciq5g0E5reo0C3ljw0D9d1c0C9d1c0D9d1c0C",
     "9d1c0D9d1c0C9d1c0D9d1c0C9q000Dasw00Ciq5g0E7x6o0Casw00E7x6o0Cb5uo0E7k800Cb5uo0E7k800C",
     "b5uo0E7x6o0Casw00E7x6o0Casw00E7x6o0Cb5uo0E7k800Cb5uo0E7k800Cb5uo0E7k800Cb5uo0E7x6o0C",
     "asw00E7x6o0Casw00E7x6o0Cb5uo0E7k800C1vbzw0Eqnc40C"],
    ""),
  ("Asia/Samarkand", "16073 14400 18000 21600",
    ["-nu18ehB37a1ahCqi27w0Ds6qk0C9d440D9et80C9eys0D9d6w0C9d1c0D9d1c0C9d1c0D9d1c0C9d1c0D9d1c0C",
     "9d1c0D9d1c0C9d1c0D9d1c0C9d1c0D9q000C9d1c0D9d1c0C"],
    ""),
  ("Asia/Seoul", "30472 30600 32400 36000 34200",
    ["-w8966gB1yh18gCj07fy0D5cik0Cae5g0D8a2k0Cae5g0D8bx80Cc8tg0D6h980C1bj6s0Bl3aq0E6j3w0B",
     "d2g40E6u7w0Bb5xg0E776k0Bbiw40E776k0Bbiw40E776k0Bbiw40E776k0Bgrs40Cdfqxi0D7x6o0Casw00D",
     "7x6o0C"],
    ""),
  ("Asia/Shanghai", "29143 28800 32400",
    ["-100eztjB9jeyxjC8sl80Basbpg0C6w2k0B7ves0Cbxjw0B4mqs0C1vduk0Bd4as0C75bw0Ba31g0Caaak0B",
     "9d440C7v980Bawo40C1dx80Bj9xpo0C6u7w0Basys0C7x3w0Bb5xg0C7k580Bb5xg0C7x3w0Basys0C7x3w0B",
     "asys0C7x3w0B"],
    ""),
  ("Asia/Singapore", "24925 25200 26400 27000 32400 28800",
    ["-xphpwdBeeb94dC4it32oD8n3jcE1v2p60Diy3ms0F"],
    ""),
  ("Asia/Srednekolymsk", "36892 36000 39600 43200",
    ["-nu1ogsB37a0osCqi27w0D9et80C9d440D9et80C9d440D9et80C9eys0D9d6w0C9d1c0D9d1c0C9d1c0D9d1c0C",
     "9d1c0D9d1c0C9d1c0D9d1c0C9d1c0D9d1c0C9d1c0D9q000Ciq5g0B5reo0C3ljw0D9d1c0C9d1c0D9d1c0C",
     "9d1c0D9d1c0C9d1c0D9d1c0C9q000Dasw00C7x6o0Dasw00C7x6o0Dasw00C7x6o0Db5uo0C7k800Db5uo0C",
     "7k800Db5uo0C7x6o0Dasw00C7x6o0Dasw00C7x6o0Db5uo0C7k800Db5uo0C7k800Db5uo0C7k800Db5uo0C",
     "7x6o0Dasw00C7x6o0Dasw00C7x6o0Db5uo0C7k800D1vbzw0C"],
    ""),
  ("Asia/Taipei", "29160 28800 32400",
    ["-12mch60Blsd1m0C45slc0Bc51c0C75bw0Ba31g0Caaak0B9d440C7v980Bawo40C7v980Bawo40C7v980B",
     "awo40C7v980B7tk40Cclmk0B7rpg0Cb07w0B7rpg0Cb07w0B7rpg0C9et80B9eys0C9et80B9d440C9et80B",
     "9d440C9et80B9d440C9et80Bcjxg0C69uk0Bci2s0C69uk0B6its40C9et80B9d440C9et80B1yf9g0C4qak0B"],
    ""),
  ("Asia/Tashkent", "16631 18000 21600 25200",
    ["-nu18tzB379yxzCqi27w0D9et80C9d440D9et80C9d440D9et80C9eys0D9d6w0C9d1c0D9d1c0C9d1c0D9d1c0C",
     "9d1c0D9d1c0C9d1c0D9d1c0C9d1c0D9d1c0C9d1c0D9q000Ciq5g0B"],
    ""),
  ("Asia/Tbilisi", "10751 10800 14400 18000",
    ["-nu14anBh4tjynCckinw0D9et80C9d440D9et80C9d440D9et80C9eys0D9d6w0C9d1c0D9d1c0C9d1c0D9d1c0C",
     "9d1c0D9d1c0C9d1c0D9d1c0C9d1c0D9d1c0C9d1c0D9q000Ciq5g0B9cvs0C9cyk0B9d440C9cyk0B9d440C",
     "ipzw0D9cyk0C9q2s0Dtivw0C7x9g0Dast80C7x9g0Db5rw0C7kas0Db5rw0C7kas0Db5rw0C7x9g0Dast80C",
     "7x9g0Dast80C7x9g0D4ofw0C6hn40B7k800C"],
    ""),
  ("Asia/Tehran", "12344 12600 16200 14400 18000",
    ["-i18hiwBlsvh0wCayg00D7z2q0E6uao0D51hc0Ba4uq0C5wvw0B9gtg0C9kd80B5ja5g0C7avw0B9d440C9gnw0B",
     "9b9g0C9gnw0B9b9g0C9gnw0B9b9g0C9gnw0B9b9g0C9gnw0B9d440C9gnw0B9b9g0C9gnw0B9b9g0C9gnw0B",
     "9b9g0C9gnw0B9d440C9gnw0B9b9g0C9gnw0B9b9g0C9gnw0B9b9g0C9gnw0B9d440C9gnw0B1av440C9gnw0B",
     "9d440C9gnw0B9b9g0C9gnw0B9b9g0C9gnw0B9b9g0C9gnw0B9d440C9gnw0B9b9g0C9gnw0B9b9g0C9gnw0B",
     "9b9g0C9gnw0B9d440C9gnw0B9b9g0C9gnw0B9b9g0C9gnw0B9b9g0C9gnw0B9d440C9gnw0B9b9g0C9gnw0B"],
    ""),
  ("Asia/Thimphu", "21516 19800 21600", ["-bojcloBkxymnoC"], ""),
  ("Asia/Tokyo", "33539 32400 36000",
    ["-16snno0Bvhjeo0C6uao0Bafxc0C8a5c0Bc8qo0C6hc00Bc8qo0C6hc00B"],
    ""),
  ("Asia/Tomsk", "20391 21600 25200 28800",
    ["-q3zbqfB5h7z2fCqi27w0D9et80C9d440D9et80C9d440D9et80C9eys0D9d6w0C9d1c0D9d1c0C9d1c0D9d1c0C",
     "9d1c0D9d1c0C9d1c0D9d1c0C9d1c0D9d1c0C9d1c0D9q000Ciq5g0B5reo0C3ljw0D9d1c0C9d1c0D9d1c0C",
     "9d1c0D9d1c0C9d1c0D9d1c0C9q000Dasw00C7x6o0Dasw00C7x6o0Dasw00C7x6o0Db5uo0C7k800Db5uo0C",
     "7k800Db5uo0C7x6o0D1leo0C97k40B7x6o0Casw00B7x6o0Cb5uo0B7k800Cb5uo0B7k800Cb5uo0B7k800C",
     "b5uo0B7x6o0Casw00B7x6o0Casw00B7x6o0Cb5uo0B7k800C1vbzw0Btw040C"],
    ""),
  ("Asia/Ulaanbaatar", "25652 25200 28800 32400",
    ["-xmcrskB11sncckC2qk2k0D9et80C9eys0D9cyk0C9d440D9cyk0C9d440D9cyk0C9d440D9cyk0C9d440D",
     "9cyk0C9d440D9cyk0C9d440D9px80C9d440D9cyk0C9d440D9cyk0C9d440D9cyk0C9d440D9cyk0C9d440D",
     "9cyk0C9q2s0D9cyk0C9d440D9cyk0C9d440D9cyk0C1ckdo0D7x3w0C9d440D9cyk0C9d440D9cyk0C9d440D",
     "9cyk0C9d440D9cyk0C9d440D9px80C4fio40D9ct00C9d9o0D9ct00C"],
    ""),
  ("Asia/Urumqi", "21020 21600", ["-lx5pjwB"], ""),
  ("Asia/Ust-Nera", "34374 28800 32400 43200 39600 36000",
    ["-q4cl6uB5hl2yuCqi27w0D9eno0E9d440D9et80E9d440D9et80E9eys0D9d6w0E9d1c0D9d1c0E9d1c0D9d1c0E",
     "9d1c0D9d1c0E9d1c0D9d1c0E9d1c0D9d1c0E9d1c0D9q000Eiq5g0F5reo0E3ljw0D9d1c0E9d1c0D9d1c0E",
     "9d1c0D9d1c0E9d1c0D9d1c0E9q000Dasw00E7x6o0Dasw00E7x6o0Dasw00E7x6o0Db5uo0E7k800Db5uo0E",
     "7k800Db5uo0E7x6o0Dasw00E7x6o0Dasw00E7x6o0Db5uo0E7k800Db5uo0E7k800Db5uo0E7k800Db5uo0E",
     "7x6o0Dasw00E7x6o0Dasw00E7x6o0Db5uo0E7k800D8ql00E1mlho0F"],
    ""),
  ("Asia/Vladivostok", "31651 32400 36000 39600",
    ["-oligf7B3yqvf7Cqi27w0D9et80C9d440D9et80C9d440D9et80C9eys0D9d6w0C9d1c0D9d1c0C9d1c0D9d1c0C",
     "9d1c0D9d1c0C9d1c0D9d1c0C9d1c0D9d1c0C9d1c0D9q000Ciq5g0B5reo0C3ljw0D9d1c0C9d1c0D9d1c0C",
     "9d1c0D9d1c0C9d1c0D9d1c0C9q000Dasw00C7x6o0Dasw00C7x6o0Dasw00C7x6o0Db5uo0C7k800Db5uo0C",
     "7k800Db5uo0C7x6o0Dasw00C7x6o0Dasw00C7x6o0Db5uo0C7k800Db5uo0C7k800Db5uo0C7k800Db5uo0C",
     "7x6o0Dasw00C7x6o0Dasw00C7x6o0Db5uo0C7k800D1vbzw0C"],
    ""),
  ("Asia/Yakutsk", "31138 28800 32400 36000",
    ["-q4cioyB5hl0gyCqi27w0D9et80C9d440D9et80C9d440D9et80C9eys0D9d6w0C9d1c0D9d1c0C9d1c0D9d1c0C",
     "9d1c0D9d1c0C9d1c0D9d1c0C9d1c0D9d1c0C9d1c0D9q000Ciq5g0B5reo0C3ljw0D9d1c0C9d1c0D9d1c0C",
     "9d1c0D9d1c0C9d1c0D9d1c0C9q000Dasw00C7x6o0Dasw00C7x6o0Dasw00C7x6o0Db5uo0C7k800Db5uo0C",
     "7k800Db5uo0C7x6o0Dasw00C7x6o0Dasw00C7x6o0Db5uo0C7k800Db5uo0C7k800Db5uo0C7k800Db5uo0C",
     "7x6o0Dasw00C7x6o0Dasw00C7x6o0Db5uo0C7k800D1vbzw0C"],
    ""),
  ("Asia/Yangon", "23087 23400 32400", ["-q3gv5bBbnjp3bC1kh520B"], ""),
  ("Asia/Yekaterinburg", "14553 13505 14400 18000 21600",
    ["-rx5hw9B1kybx4C5pfyv5Dqi27w0E9et80D9d440E9et80D9d440E9et80D9eys0E9d6w0D9d1c0E9d1c0D",
     "9d1c0E9d1c0D9d1c0E9d1c0D9d1c0E9d1c0D9d1c0E9d1c0D9d1c0E9q000Diq5g0C5reo0D3ljw0E9d1c0D",
     "9d1c0E9d1c0D9d1c0E9d1c0D9d1c0E9d1c0D9q000Easw00D7x6o0Easw00D7x6o0Easw00D7x6o0Eb5uo0D",
     "7k800Eb5uo0D7k800Eb5uo0D7x6o0Easw00D7x6o0Easw00D7x6o0Eb5uo0D7k800Eb5uo0D7k800Eb5uo0D",
     "7k800Eb5uo0D7x6o0Easw00D7x6o0Easw00D7x6o0Eb5uo0D7k800E1vbzw0D"],
    ""),
  ("Asia/Yerevan", "10680 10800 14400 18000",
    ["-nu148oBh4tjwoCckinw0D9et80C9d440D9et80C9d440D9et80C9eys0D9d6w0C9d1c0D9d1c0C9d1c0D9d1c0C",
     "9d1c0D9d1c0C9d1c0D9d1c0C9d1c0D9d1c0C9d1c0D9q000Ciq5g0B9d1c0C9d1c0B9d1c0C9d1c0B9d1c0C",
     "9d1c0B9d1c0C11t180Dasw00C7x6o0Dasw00C7x6o0Db5uo0C7k800Db5uo0C7k800Db5uo0C7x6o0Dasw00C",
     "7x6o0Dasw00C7x6o0Db5uo0C7k800Db5uo0C7k800Db5uo0C7k800Db5uo0C7x6o0Dasw00C7x6o0Dasw00C",
     "7x6o0Db5uo0C7k800Db5uo0C"],
    "")]

end Automation.Zone
