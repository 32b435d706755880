/-
# Zones of Europe

One entry for each zone: its name, the offsets it ever had in seconds, the
changes between them, and the rule of later years (`Zone.Entry`).
-/
import Automation.Zone.Entry

namespace Automation.Zone

def europeZones : List Entry := [
  ("Europe/Andorra", "364 0 3600 7200",
    ["-100edm4Bnvgqy4Ck3ctg0D9d1c0C9d1c0D9d1c0C9d1c0D9d1c0C9d1c0D9d1c0C9d1c0D9d1c0C9d1c0D",
     "9q000C9d1c0D9d1c0C9d1c0D9d1c0C9d1c0D9d1c0C9d1c0D9d1c0C9d1c0D9d1c0C9q000D"],
    "3600 7200 3 5 0 7200 10 5 0 10800"),
  ("Europe/Astrakhan", "11532 10800 14400 18000",
    ["-nu2zkcB37bv8cCqi27w0D9et80C9d440D9et80C9d440D9et80C9eys0D9d6w0C9d1c0D9d1c0C9d1c0D9d1c0C",
     "9d1c0D9d1c0C9d1c0D9d1c0Ciq5g0B9d1c0C9q000B9d1c0Cs3400B9d1c0C9d1c0B9d1c0C9d1c0B9d1c0C",
     "9d1c0B9q000Casw00B7x6o0Casw00B7x6o0Casw00B7x6o0Cb5uo0B7k800Cb5uo0B7k800Cb5uo0B7x6o0C",
     "asw00B7x6o0Casw00B7x6o0Cb5uo0B7k800Cb5uo0B7k800Cb5uo0B7k800Cb5uo0B7x6o0Casw00B7x6o0C",
     "asw00B7x6o0Cb5uo0B7k800C1vbzw0Bqnc40C"],
    ""),
  ("Europe/Athens", "5692 7200 10800 3600",
    ["-rvv0cgB8bjasgC2vmk0B4hiw40C16ik0Bscog0D7lx40B9o2k0D9eys0B4atzw0C6djw0Bbplus0Cbq800B",
     "71uw0C9d1c0B902o0C91xc0B9o5c0C905g0B9qgo0C9akg0B9iik0C99980B9dcg0C9d1c0B9d1c0C9d1c0B",
     "9d1c0C9d1c0B9d1c0C9q000B9d1c0C9d1c0B9d1c0C9d1c0B9d1c0C9d1c0B9d1c0C9d1c0B9d1c0C9d1c0B",
     "9d1c0C9q000B9d1c0C9d1c0B9d1c0C9d1c0B9d1c0C9d1c0B9d1c0C9d1c0B9d1c0C9d1c0B9q000C"],
    "7200 10800 3 5 0 10800 10 5 0 14400"),
  ("Europe/Belgrade", "4920 3600 7200",
    ["-18vsmgoBtwhnkoCswz00B7k800C9q000B9d1c0C9d1c0Bb7pc0C6qlc0Bjl1hc0C9d1c0B9d1c0C9q000B",
     "9d1c0C9d1c0B9d1c0C9d1c0B9d1c0C9d1c0B9d1c0C9d1c0B9d1c0C9d1c0B9d1c0C9q000B9d1c0C9d1c0B",
     "9d1c0C9d1c0B9d1c0C9d1c0B9d1c0C9d1c0B9d1c0C9d1c0B9q000C"],
    "3600 7200 3 5 0 7200 10 5 0 10800"),
  ("Europe/Berlin", "3208 3600 7200 10800",
    ["-1421154Bc1n0x4C7ves0Ba4yw0C7x6o0Basw00C7x6o0Bb8qdc0C1cm000B7k800C9q000B9d1c0C9d1c0B",
     "9d1c0C2o7w0D6bs00C2txg0B7k800C91xc0B9b9g0C1sqk0D2inw0C51k40Ba2yo0C8n400B9q000C902o0B",
     "fx91c0C902o0B9d1c0C9d1c0B9d1c0C9d1c0B9d1c0C9d1c0B9d1c0C9q000B9d1c0C9d1c0B9d1c0C9d1c0B",
     "9d1c0C9d1c0B9d1c0C9d1c0B9d1c0C9d1c0B9d1c0C9q000B9d1c0C9d1c0B9d1c0C9d1c0B9d1c0C9d1c0B",
     "9d1c0C9d1c0B9d1c0C9d1c0B9q000C"],
    "3600 7200 3 5 0 7200 10 5 0 10800"),
  ("Europe/Brussels", "1050 0 3600 7200",
    ["-14j9c00Bbr3hc0Crrx80D7vc00Ca4yw0D7x6o0Casw00D7x6o0C2wh40B5omo0Cb5uo0B6uao0Ccyo00B7ayo0C",
     "bko00B7rmo0Ca2yo0Ba2yo0C8n400B902o0C9q000B9d1c0C9d1c0Ba2yo0C8n400B9q000C902o0Ba2yo0C",
     "90b00Ba2yo0C8n400B9q000C902o0Ba2yo0C8n400B9d1c0C9d1c0B902o0Ca2yo0B9d1c0C9d1c0B902o0C",
     "9q000Ba2yo0C8n400B9d1c0C9d1c0B902o0C9q000Ba2yo0Cb5uo0B51hc0C4deo0D1a36k0C7k800D9q000C",
     "9d1c0D8l9c0Ca4tc0D8l9c0Cclpc0D79400Cfwu800D902o0C9q000D9d1c0C9d1c0D9d1c0C9q000D902o0C",
     "9d1c0D9d1c0C9d1c0D9d1c0C9d1c0D9d1c0C9d1c0D9q000C9d1c0D9d1c0C9d1c0D9d1c0C9d1c0D9d1c0C",
     "9d1c0D9d1c0C9d1c0D9d1c0C9d1c0D9q000C9d1c0D9d1c0C9d1c0D9d1c0C9d1c0D9d1c0C9d1c0D9d1c0C",
     "9d1c0D9d1c0C9q000D"],
    "3600 7200 3 5 0 7200 10 5 0 10800"),
  ("Europe/Bucharest", "6264 7200 10800",
    ["-k29zi0Bfj8m0C6w5c0B9d1c0C9d1c0B9q000C9d1c0B9d1c0C9d1c0B9d1c0C9d1c0B9d1c0C9d1c0B9d1c0C",
     "9d1c0B9d1c0C9d1c0Bkp0dc0C6h980B9q000C905g0B9d6w0C9d1c0B9d1c0C9d1c0B9d1c0C9d1c0B9d1c0C",
     "9q000B9d1c0C9d1c0B9d1c0C9d1c0B9d1c0C9d1c0B9d1c0C9d1c0B9d1c0C9d1c0B9d1c0C9q000B9cvs0C",
     "9d1c0B9d1c0C9d1c0B9d1c0C9d1c0B9d1c0C9cyk0B9d440C9cyk0B9q2s0Cast80B7xhs0C"],
    "7200 10800 3 5 0 10800 10 5 0 14400"),
  ("Europe/Budapest", "4580 3600 7200",
    ["-15bee78Bdb0dz8C7ves0Ba4yw0C7x6o0Basw00C7x6o0Bauqo0C7vc00Bafxc0C8n400Baq1x00Cthcc0B",
     "7k800C9q000B9d1c0C9d1c0Bawd00C9eys0B7pxk0C9rrw0B9b9g0C9d1c0B9d1c0C9d1c0B9q000C902o0B",
     "2f4vs0C6u7w0Bbw0c0C6uao0Bclpc0C64dc0Bclpc0C64dc0Bbr3bs0C902o0B9d1c0C9d1c0B9d1c0C9d1c0B",
     "9d1c0C9d1c0B9d6w0C9q000B9d1c0C9d1c0B9d1c0C9d1c0B9d1c0C9d1c0B9d1c0C9d1c0B9d1c0C9d1c0B",
     "9d1c0C9q000B9d1c0C9d1c0B9d1c0C9d1c0B9d1c0C9d1c0B9d1c0C9d1c0B9d1c0C9d1c0B9q000C"],
    "3600 7200 3 5 0 7200 10 5 0 10800"),
  ("Europe/Chisinau", "6920 6900 6264 7200 10800 3600 14400",
    ["-1ayy808Bjw96okC70f1toDfj8m0E6w5c0D9d1c0E9d1c0D9q000E9d1c0D9d1c0E9d1c0D9d1c0E9d1c0D",
     "9d1c0E9d1c0D9d1c0E9d1c0D9d1c0E9d1c0Dgeqo0Eha580Doc8g0F7k800D9q000F9d1c0D7cl00Ej3pbw0G",
     "9et80E9d440G9et80E9d440G9et80E9eys0G9d6w0E9d1c0G9d1c0E9d1c0G9d1c0E9d1c0G9d1c0E9d1c0G",
     "9d1c0E9d1c0G9d1c0E9d1c0G25p80E7kdk0D9d1c0E9d1c0D9cvs0E9cyk0D9d440E9cyk0D9d440E9cyk0D",
     "9d440E9cyk0D9q2s0East80D7xf00Easw00D7x6o0Easw00D7x6o0Eb5uo0D7k800Eb5uo0D7k800Eb5uo0D",
     "7x6o0Easw00D7x6o0Easw00D7x6o0Eb5uo0D7k800Eb5uo0D7k800Eb5uo0D7k800Eb5uo0D7x6o0Easw00D",
     "7x6o0Easw00D7x6o0Eb5uo0D7k800Eb5uo0D7k800Eb5uo0D7x6o0Easw00D7x6o0Easw00D7x6o0Easw00D",
     "7x6o0Eb5uo0D7k800Eb5uo0D7k800Eb5uo0D7x6o0Easw00D7x6o0Easw00D7x6o0Eb5uo0D7kas0E"],
    "7200 10800 3 5 0 10800 10 5 0 14400"),
  ("Europe/Dublin", "-1521 2079 0 3600",
    ["-rzcmlrB6uao0C9pytrD8c000C9o5c0D9ruo0C9b6o0D9ew00C9b6o0Dauqo0C88ao0D9ew00C8y800Da2yo0C",
     "a2yo0D7k800Casw00D8a5c0Casw00D8n400Ca2yo0D8n400C9q000D902o0Cafxc0D8n400Ca2yo0D8n400C",
     "9q000D902o0Ca2yo0D8n400Ca2yo0D8n400C9q000D9d1c0Ca2yo0D8n400C9q000D902o0Ca2yo0D8n400C",
     "a2yo0D8n400C9q000D902o0Ca2yo0Db5uo0C51hc0D3g8800C8a5c0Dbvs00C8n400Da2yo0C7x6o0Dasw00C",
     "8n400D9q000C902o0D9q000C9d1c0D9q000C902o0D8n400C9q000D902o0Ca2yo0D8n400Cafxc0D8n400C",
     "9q000D902o0Ca2yo0D8n400Ca2yo0D8n400C9q000D902o0C902o0Db5uo0C7k800Db5uo0C7x6o0Dasw00C",
     "7k800Db5uo0C7k800Db5uo0C7k800Db5uo0C7k800Dbitc0C5reo0D1xhuo0C779c0Dbitc0C779c0Dbitc0C",
     "779c0Dbitc0C779c0Dbitc0C7k800Db5uo0C7k800Db5uo0C7k800Dbitc0C779c0Dbitc0C779c0Dbitc0C",
     "7x3w0Dasw00C7x6o0Dasw00C7x6o0Dasw00C7x6o0Db5uo0C7x6o0Dasw00C7x6o0Dasw00C7x6o0Dasw00C",
     "7x6o0Dasw00C7x6o0Db5uo0C7k800Db5uo0C7x6o0Dasw00C7x6o0Dasw00C7x6o0Dasw00C7x6o0Dasw00C",
     "7x6o0Dasw00C8a5c0D"],
    "0 3600 3 5 0 3600 10 5 0 7200"),
  ("Europe/Gibraltar", "-1284 0 3600 7200",
    ["-1anxr0cBiol38cC6uao0B9q000C8c000B9o5c0C9ruo0B9b6o0C9ew00B9b6o0Cauqo0B88ao0C9ew00B8y800C",
     "a2yo0Ba2yo0C7k800Basw00C8a5c0Basw00C8n400Ba2yo0C8n400B9q000C902o0Bafxc0C8n400Ba2yo0C",
     "8n400B9q000C902o0Ba2yo0C8n400Ba2yo0C8n400B9q000C9d1c0Ba2yo0C8n400B9q000C902o0Ba2yo0C",
     "8n400Ba2yo0C8n400B9q000C902o0Ba2yo0Cb5uo0B51hc0Cmbmk0D51hc0Cc8qo0D6hc00Cc8qo0D6uao0C",
     "bvs00D8n400Ca4tc0D5clc0C4bms0B9q000C902o0B8a5c0C1frw0D64dc0C4bms0B6uao0Cbvs00B7x6o0C",
     "asw00B8n400C9q000B902o0C9q000B9d1c0C9q000B902o0C8n400B9q000C902o0Ba2yo0C8n400Bafxc0C",
     "8n400B9q000Cd0tp80D9d1c0C9d1c0D9d1c0C9d1c0D9q000C9d1c0D9d1c0C9d1c0D9d1c0C9d1c0D9d1c0C",
     "9d1c0D9d1c0C9d1c0D9d1c0C9d1c0D9q000C9d1c0D9d1c0C9d1c0D9d1c0C9d1c0D9d1c0C9d1c0D9d1c0C",
     "9d1c0D9d1c0C9q000D"],
    "3600 7200 3 5 0 7200 10 5 0 10800"),
  ("Europe/Helsinki", "5989 7200 10800",
    ["-peghydBax3tqdC9gqo0Bk31s80C9d1c0B9d1c0C9d1c0B9d440C9d1c0B9d1c0C9q000B9d1c0C9d1c0B9d1c0C",
     "9d1c0B9d1c0C9d1c0B9d1c0C9d1c0B9d1c0C9d1c0B9d1c0C9q000B9d1c0C9d1c0B9d1c0C9d1c0B9d1c0C",
     "9d1c0B9d1c0C9d1c0B9d1c0C9d1c0B9q000C"],
    "7200 10800 3 5 0 10800 10 5 0 14400"),
  ("Europe/Istanbul", "6952 7016 7200 10800 14400",
    ["-1ayy814Bg1oam8C2wvx6wD7v980C1tjc40Daunw0C88dg0D9et80C8yas0Da2vw0Ctzpg0D79180Cawo40D",
     "7v980C7p4040D4zjw0C2vs40Df4d80C9vms0D1u5ek0Cc5440D69uk0Cacas0D8n180Ca31g0D8n180C9q2s0D",
     "8zzw0Ca31g0D8zzw0Ca31g0D8n180C5md9g0Do9zw0Ca6qs0D75bw0C4iwyw0D7x6o0C7kas0Db5rw0C75hg0D",
     "bkl80C77c40Dbiqk0C7x9g0Da2vw0C8n6s0D2s3mk0E38l80Dkdes0C8qtc0D8a5c0C9ew00D9d1c0C9d1c0D",
     "9d1c0C9d1c0D9d1c0C9d1c0D9d1c0C9d1c0D9q000C9d1c0D9d1c0C9d1c0D9d1c0C9d1c0D9d1c0C902o0D",
     "9q000C9d1c0D9d1c0C9q000Dasw00C7x6o0Dasw00C7x6o0Dasw00C7x6o0Db5uo0C7k800Db5uo0C7k800D",
     "b5uo0C7x6o0Dasw00C7x6o0Dasw00C7x6o0Db5uo0C7k800Db5uo0C7k800Db5uo0C7kdk0Db5uo0C7x6o0D",
     "asw00C7x6o0Dasw00C7x6o0Db5uo0C7m2o0Db4000C7k800Db5uo0C7x6o0Dasw00C7z1c0Dar1c0C7x6o0D",
     "bitc0C779c0D"],
    ""),
  ("Europe/Kaliningrad", "4920 3600 7200 10800 14400",
    ["-14212goBc1n28oC7ves0Ba4yw0C7x6o0Basw00C7x6o0Bb8qdc0C1cm000B7k800C9q000B9d1c0C9d1c0B",
     "9d1c0C1dro0D9kd80C82tg0Di9avw0E9et80D9d440E9et80D9d440E9et80D9eys0E9d6w0D9d1c0E9d1c0D",
     "9d1c0E9d1c0D9d1c0E9d1c0D9d1c0E9d1c0Diq5g0C9d1c0D9q000C9d1c0D9d1c0C9d1c0D9d1c0C9d1c0D",
     "9d1c0C9d1c0D9d1c0C9d1c0D9d1c0C9q000Dasw00C7x6o0Dasw00C7x6o0Dasw00C7x6o0Db5uo0C7k800D",
     "b5uo0C7k800Db5uo0C7x6o0Dasw00C7x6o0Dasw00C7x6o0Db5uo0C7k800Db5uo0C7k800Db5uo0C7k800D",
     "b5uo0C7x6o0Dasw00C7x6o0Dasw00C7x6o0Db5uo0C7k800D1vbzw0C"],
    ""),
  ("Europe/Kirov", "11928 10800 14400 18000",
    ["-qcx400B5q5zo0Cqi27w0D9et80C9d440D9et80C9d440D9et80C9eys0D9d6w0C9d1c0D9d1c0C9d1c0D9d1c0C",
     "9d1c0D9d1c0C9d1c0D9d1c0Ciq5g0B9d1c0C9q000B9d1c0Cs3400B9d1c0C9d1c0B9d1c0C9d1c0B9d1c0C",
     "9d1c0B9q000Casw00B7x6o0Casw00B7x6o0Casw00B7x6o0Cb5uo0B7k800Cb5uo0B7k800Cb5uo0B7x6o0C",
     "asw00B7x6o0Casw00B7x6o0Cb5uo0B7k800Cb5uo0B7k800Cb5uo0B7k800Cb5uo0B7x6o0Casw00B7x6o0C",
     "asw00B7x6o0Cb5uo0B7k800C1vbzw0B"],
    ""),
  ("Europe/Kyiv", "7324 7200 10800 3600 14400",
    ["-nu11ngB37a03gC5vd6k0Bkzv40D7k800B9q000D1oyg0Cjipzs0E9et80C9d440E9et80C9d440E9et80C",
     "9eys0E9d6w0C9d1c0E9d1c0C9d1c0E9d1c0C9d1c0E9d1c0C9d1c0E9d1c0C9d1c0E9d1c0C9d1c0E51ek0C",
     "neqw0B9d1c0C9d1c0B9d1c0C9d1c0B9d1c0C9d1c0B9d1c0C9d1c0B9q000Casys0B"],
    "7200 10800 3 5 0 10800 10 5 0 14400"),
  ("Europe/Lisbon", "-2205 0 3600 7200",
    ["-u9rhc0B2bufw0C6zxg0B66800Cbq580B71s40Cbq580B71s40Cbq580B73ms0Cbq580B71s40Cbq580B1b2g00C",
     "8so00Bst1c0C8n400B9q000C902o0Ba2yo0C902o0Ba2yo0C8n400Bst1c0C8n400B9d1c0C9d1c0Bsg2o0C",
     "9d1c0B902o0C9q000Ba2yo0C8n400B9d1c0C9d1c0B902o0C9q000Ba2yo0Cb5uo0B51hc0Cbmio0B99c00C",
     "9ew00B88ao0C25p80D5reo0C3lpg0B779c0C1sqk0D6uao0C38qs0B6uao0C25p80D6hc00C38qs0B6uao0C",
     "25p80D6hc00C38qs0B8a5c0C9d1c0B9d9o0C9d1c0B9d1c0C9d1c0B9d1c0C9d1c0B9d1c0C9d1c0B9d1c0C",
     "9q000B9d1c0C9d1c0B9d1c0C9d1c0B9d1c0C9d1c0B9d1c0C9d1c0B9d1c0C9q000B9d1c0C9d1c0B9d1c0C",
     "9d1c0B9d1c0C9d1c0B9d1c0C9d1c0B9d1c0C9d1c0B9d1c0C9q000B9d1c0C9d1c0B9d1c0C9d1c0B9d1c0C",
     "9d1c0B9d1c0C5gyl40B9d1c0C9d1c0B9q2s0C9d1c0B9d1c0C9d1c0B9q000C902o0B9cyk0C9d1c0B9d1c0C",
     "9d1c0B9d1c0C9d1c0B9d1c0C9q000B9d1c0C9d1c0B9d440C9d1c0B9d1c0C9d1c0B9d1c0C9d1c0B9d1c0C",
     "9d1c0B9d1c0C9q000B9d1c0C9d1c0B9d1c0Ciq2o0D9d1c0C9d1c0D9d1c0C9d1c0D9d1c0Ckiw00B"],
    "0 3600 3 5 0 3600 10 5 0 7200"),
  ("Europe/London", "-75 0 3600 7200",
    ["-1rprx9xBzqf9hxC6uao0B9q000C8c000B9o5c0C9ruo0B9b6o0C9ew00B9b6o0Cauqo0B88ao0C9ew00B8y800C",
     "a2yo0Ba2yo0C7k800Basw00C8a5c0Basw00C8n400Ba2yo0C8n400B9q000C902o0Bafxc0C8n400Ba2yo0C",
     "8n400B9q000C902o0Ba2yo0C8n400Ba2yo0C8n400B9q000C9d1c0Ba2yo0C8n400B9q000C902o0Ba2yo0C",
     "8n400Ba2yo0C8n400B9q000C902o0Ba2yo0Cb5uo0B51hc0Cmbmk0D51hc0Cc8qo0D6hc00Cc8qo0D6uao0C",
     "bvs00D8n400Ca4tc0D5clc0C4bms0B9q000C902o0B8a5c0C1frw0D64dc0C4bms0B6uao0Cbvs00B7x6o0C",
     "asw00B8n400C9q000B902o0C9q000B9d1c0C9q000B902o0C8n400B9q000C902o0Ba2yo0C8n400Bafxc0C",
     "8n400B9q000C902o0Ba2yo0C8n400Ba2yo0C8n400B9q000C902o0B902o0Cb5uo0B7k800Cb5uo0B7x6o0C",
     "asw00B7k800Cb5uo0B7k800Cb5uo0B7k800Cb5uo0B7k800Cbitc0B5reo0C1xhuo0B779c0Cbitc0B779c0C",
     "bitc0B779c0Cbitc0B779c0Cbitc0B7k800Cb5uo0B7k800Cb5uo0B7k800Cbitc0B779c0Cbitc0B779c0C",
     "bitc0B7x3w0Casw00B7x6o0Casw00B7x6o0Casw00B7x6o0Cb5uo0B7x6o0Casw00B7x6o0Casw00B7x6o0C",
     "asw00B7x6o0Casw00B7x6o0Cb5uo0B7k800Cb5uo0B7x6o0Casw00B7x6o0Casw00B7x6o0Casw00B7x6o0C",
     "asw00B7x6o0Casw00B8a5c0C"],
    "0 3600 3 5 0 3600 10 5 0 7200"),
  ("Europe/Madrid", "-884 0 3600 7200",
    ["-100edc0B90sik0C8yas0B9cyk0C9eys0B2d2vw0C8sqs0Bssyk0C8n6s0B9px80C905g0Ba2yo0C902o0B",
     "a2vw0C8n6s0B40lh80C5k2s0B9cyk0C1frw0D7z1c0Cj1c80B8a2k0C13yt80D685g0Cbrzw0D8n6s0Ca2vw0D",
     "8n6s0Ca2vw0D8n6s0Ca2vw0D8n6s0C1clx80D7x9g0Ccswik0D905g0C9px80D905g0C8zzw0D9d440C9px80D",
     "905g0C9q5k0D9d1c0C9d1c0D9d1c0C9q000D902o0C9d1c0D9d1c0C9d1c0D9d1c0C9d1c0D9d1c0C9d1c0D",
     "9q000C9d1c0D9d1c0C9d1c0D9d1c0C9d1c0D9d1c0C9d1c0D9d1c0C9d1c0D9d1c0C9d1c0D9q000C9d1c0D",
     "9d1c0C9d1c0D9d1c0C9d1c0D9d1c0C9d1c0D9d1c0C9d1c0D9d1c0C9q000D"],
    "3600 7200 3 5 0 7200 10 5 0 10800"),
  ("Europe/Malta", "3484 3600 7200",
    ["-13qyw0sBbsbx8sC64ak0B9d440C9et80B88dg0Caunw0B7ig40Cb5rw0B8n6s0C9cyk0Baau2s0C18r9k0B",
     "7k800C9q000B9b6o0C8n400Ba4tc0C8j940B9f1k0Cafxc0B89zs0Cafxc0B7kdk0Cb5uo0B979rs0C6h980B",
     "cls40C64dc0Bclpc0C64dc0Bcyo00C64dc0Bclpc0C64dc0Bc8qo0C6hc00Bclpc0C6hc00B9b6o0C9d1c0B",
     "ahs00C7m2o0Bb45k0C7x3w0Basys0C7x3w0Basys0C7x3w0Basys0C7x3w0Basys0C7x3w0Ba4w40C8y580B",
     "9q2s0C9d1c0B9d1c0C9d1c0B9d1c0C9d1c0B9d1c0C9q000B9d1c0C9d1c0B9d1c0C9d1c0B9d1c0C9d1c0B",
     "9d1c0C9d1c0B9d1c0C9d1c0B9d1c0C9q000B9d1c0C9d1c0B9d1c0C9d1c0B9d1c0C9d1c0B9d1c0C9d1c0B",
     "9d1c0C9d1c0B9q000C"],
    "3600 7200 3 5 0 7200 10 5 0 10800"),
  ("Europe/Minsk", "6616 6600 7200 10800 3600 14400",
    ["-1ayy7rsBn4x6ogC379zjcD5r1mk0Cpbf40E7k800C9q000E9d1c0C4oac0Dj6dmk0F9et80D9d440F9et80D",
     "9d440F9et80D9eys0F9d6w0D9d1c0F9d1c0D9d1c0F9d1c0D9d1c0F9d1c0D9d1c0F9d1c0D9d1c0F9d1c0D",
     "11t6s0C9d1c0D9d1c0C9d1c0D9d1c0C9d1c0D9d1c0C9d1c0D9d1c0C9q000Dasw00C7x6o0Dasw00C7x6o0D",
     "asw00C7x6o0Db5uo0C7k800Db5uo0C7k800Db5uo0C7x6o0Dasw00C7x6o0Dasw00C7x6o0Db5uo0C7k800D",
     "b5uo0C7k800Db5uo0C7k800Db5uo0C7x6o0Dasw00C7x6o0Dasw00C7x6o0Db5uo0C7k800D"],
    ""),
  ("Europe/Moscow", "9017 9079 12679 16279 14400 10800 18000 7200",
    ["-rx5dmhBipzuaC97hc0B7yyk0D5i840Cd9p80D1jwk7E2cvk0Fs8o00E1qvw0G8fpc0E1jms0Fis040H412as0F",
     "qi27w0E9et80F9d440E9et80F9d440E9et80F9eys0E9d6w0F9d1c0E9d1c0F9d1c0E9d1c0F9d1c0E9d1c0F",
     "9d1c0E9d1c0F9d1c0E9d1c0F9d1c0E9q000Fiq5g0H5reo0F3ljw0E9d1c0F9d1c0E9d1c0F9d1c0E9d1c0F",
     "9d1c0E9d1c0F9q000Easw00F7x6o0Easw00F7x6o0Easw00F7x6o0Eb5uo0F7k800Eb5uo0F7k800Eb5uo0F",
     "7x6o0Easw00F7x6o0Easw00F7x6o0Eb5uo0F7k800Eb5uo0F7k800Eb5uo0F7k800Eb5uo0F7x6o0Easw00F",
     "7x6o0Easw00F7x6o0Eb5uo0F7k800E1vbzw0F"],
    ""),
  ("Europe/Paris", "561 0 3600 7200",
    ["-uozn3lB2qx1nlC5luo0B8y800Ca4tc0B7vc00Cauqo0B7idc0Cb7pc0B6sg00Ccyo00B7ayo0Cbko00B7rmo0C",
     "a2yo0Bbvs00C6uao0B902o0C9q000B9d1c0C9d1c0Ba2yo0C8n400B9q000C902o0Ba2yo0C902o0Ba2yo0C",
     "8n400B9q000C902o0Ba2yo0C8n400B9d1c0C9d1c0B902o0Ca2yo0B9d1c0C9d1c0B902o0C9q000Ba2yo0C",
     "8n400B9d1c0C9d1c0B902o0C9q000Ba2yo0Cb5uo0B51po0C5p8w0D18rcc0C7k800D9q000C9d1c0D9nzs0C",
     "922w0D8l9c0Cfxlx80D9cyk0C9q5k0D902o0C9q000D9d1c0C9d1c0D9d1c0C9q000D902o0C9d1c0D9d1c0C",
     "9d1c0D9d1c0C9d1c0D9d1c0C9d1c0D9q000C9d1c0D9d1c0C9d1c0D9d1c0C9d1c0D9d1c0C9d1c0D9d1c0C",
     "9d1c0D9d1c0C9d1c0D9q000C9d1c0D9d1c0C9d1c0D9d1c0C9d1c0D9d1c0C9d1c0D9d1c0C9d1c0D9d1c0C",
     "9q000D"],
    "3600 7200 3 5 0 7200 10 5 0 10800"),
  ("Europe/Prague", "3464 3600 7200 0",
    ["-14u7uo8Bcttug8C7ves0Ba4yw0C7x6o0Basw00C7x6o0Bb8qdc0C1cm000B7k800C9q000B9d1c0C9d1c0B",
     "9d1c0C9d1c0Bb5uo0C7vc00B2vs40D4bk00B2vmk0C8n400Ba2yo0C8n400B9o5c0C91xc0Bfe6000C9d1c0B",
     "9q000C902o0B9d1c0C9d1c0B9d1c0C9d1c0B9d1c0C9d1c0B9d1c0C9q000B9d1c0C9d1c0B9d1c0C9d1c0B",
     "9d1c0C9d1c0B9d1c0C9d1c0B9d1c0C9d1c0B9d1c0C9q000B9d1c0C9d1c0B9d1c0C9d1c0B9d1c0C9d1c0B",
     "9d1c0C9d1c0B9d1c0C9d1c0B9q000C"],
    "3600 7200 3 5 0 7200 10 5 0 10800"),
  ("Europe/Riga", "5794 9394 7200 10800 3600 14400",
    ["-qznlkyB7x6o0Aa4tc0B2mg00A3myns0C7fhlkyDgz180Cp5v40E7k800C9q000E9d1c0C9d1c0Ek7s0Dj14ns0F",
     "9et80D9d440F9et80D9d440F9et80D9eys0F9d6w0D9d1c0F9d1c0D9d1c0F9d1c0D9d1c0F9d1c0D9d1c0F",
     "9d1c0Diq5g0C9d1c0D9q000C9d1c0D9d1c0C9d1c0D9d1c0C9d1c0D9d1c0C9d1c0D9d1c0C9d1c0D9d1c0C",
     "9q000D9d1c0C9d440Dasw00C7x6o0Dasw00C7x6o0Db5uo0Cqaao0D"],
    "7200 10800 3 5 0 10800 10 5 0 14400"),
  ("Europe/Rome", "2996 3600 7200",
    ["-13r0qs0Bbsds00C64ak0B9d440C9et80B88dg0Caunw0B7ig40Cb5rw0B8n6s0C9cyk0Baau2s0C18r9k0B",
     "7k800C9q000B9d1c0C8l9c0Ba4tc0C8j940B9f1k0Cafxc0B89zs0Cafxc0B7kdk0Cb5uo0B979rs0C6h980B",
     "cls40C64dc0Bclpc0C64dc0Bcyo00C64dc0Bclpc0C64dc0Bc8qo0C6hc00Bclpc0C6hc00Bclpc0C64dc0B",
     "c8qo0C6hc00Bclpc0C64dc0Bclpc0C64dc0Bc8qo0C6hc00Bclpc0C6hc00Bc8qo0C6hc00B9q5k0C902o0B",
     "9d1c0C9d1c0B9d1c0C9d1c0B9d1c0C9d1c0B9d1c0C9q000B9d1c0C9d1c0B9d1c0C9d1c0B9d1c0C9d1c0B",
     "9d1c0C9d1c0B9d1c0C9d1c0B9d1c0C9q000B9d1c0C9d1c0B9d1c0C9d1c0B9d1c0C9d1c0B9d1c0C9d1c0B",
     "9d1c0C9d1c0B9q000C"],
    "3600 7200 3 5 0 7200 10 5 0 10800"),
  ("Europe/Samara", "12020 10800 14400 18000",
    ["-qcx400B5q5zo0Cqi27w0D9et80C9d440D9et80C9d440D9et80C9eys0D9d6w0C9d1c0D9d1c0C9d1c0D9d1c0C",
     "9d1c0D9d1c0C9d1c0D9d1c0Ciq5g0B9d1c0C9q000Bjt1g0C89zs0D9d1c0C9d1c0D9d1c0C9d1c0D9d1c0C",
     "9d1c0D9d1c0C9q000Dasw00C7x6o0Dasw00C7x6o0Dasw00C7x6o0Db5uo0C7k800Db5uo0C7k800Db5uo0C",
     "7x6o0Dasw00C7x6o0Dasw00C7x6o0Db5uo0C7k800Db5uo0C7k800Db5uo0C7k800Db5uo0C7x6o0Dasw00C",
     "7x6o0Dasw00Cj3440B7k800C"],
    ""),
  ("Europe/Saratov", "11058 10800 14400 18000",
    ["-qcx400B5q5zo0Cqi27w0D9et80C9d440D9et80C9d440D9et80C9eys0D9d6w0C9d1c0D9d1c0C9d1c0D9d1c0C",
     "9d1c0D9d1c0Ciq5g0B9d1c0C9d1c0B9d1c0C9q000B9d1c0Cs3400B9d1c0C9d1c0B9d1c0C9d1c0B9d1c0C",
     "9d1c0B9q000Casw00B7x6o0Casw00B7x6o0Casw00B7x6o0Cb5uo0B7k800Cb5uo0B7k800Cb5uo0B7x6o0C",
     "asw00B7x6o0Casw00B7x6o0Cb5uo0B7k800Cb5uo0B7k800Cb5uo0B7k800Cb5uo0B7x6o0Casw00B7x6o0C",
     "asw00B7x6o0Cb5uo0B7k800C1vbzw0B13m040C"],
    ""),
  ("Europe/Simferopol", "8184 8160 7200 10800 3600 14400",
    ["-1ayy8zcBn4x6ooC37a0qoD5xiyk0Ciu340E7k800C9q000E9d1c0Ciac0Djajmk0F9et80D9d440F9et80D",
     "9d440F9et80D9eys0F9d6w0D9d1c0F9d1c0D9d1c0F9d1c0D9d1c0F9d1c0D9d1c0F9d1c0D9d1c0F9d1c0D",
     "eeio0Cwrpg0D9d1c0C9d1c0D9d1c0C9d1c0D1sl00F7kdk0D9d1c0F9d1c0D9pug0Fat4c0Diq5g0C7x6o0D",
     "asw00C7x6o0Db5uo0C7k800Db5uo0C7k800Db5uo0C7x6o0Dasw00C7x6o0Dasw00C7x6o0Db5uo0C7k800D",
     "b5uo0C7k800Db5uo0C7k800Db5uo0C7x6o0Dasw00C7x6o0Dasw00C7x6o0Db5uo0C7k800Db5uo0C7k800D",
     "b5uo0C7x6o0Dasw00C7x3w0Fasqg0D"],
    ""),
  ("Europe/Sofia", "5596 7016 7200 3600 10800",
    ["-1ayy6zgB7s708kCp0d6uwD7k800C9q000D9d1c0C9d1c0D9d440Chqq240E9eys0C9o2k0E92040C9o2k0E",
     "90880C9pug0E90b00C9d1c0E9d1c0C9d1c0E9q000C9d1c0E9d1c0C9d1c0E9d1c0C9d1c0E9d1c0C9d1c0E",
     "9d1c0C9d1c0E9d1c0C9d1c0E9q000C9cvs0E9cyk0C9d440E9cyk0C9d440E9cyk0C9d440E9cyk0C9d440E",
     "9cyk0C9q2s0East80C7xhs0E"],
    "7200 10800 3 5 0 10800 10 5 0 14400"),
  ("Europe/Tallinn", "5940 3600 7200 10800 14400",
    ["-r3exx0B3re10C7x6o0Bet6g0Aygov0Ca1zgd0Dktx80Cl94g0B7k800C9q000B9d1c0C8uac0Dj27mk0E9et80D",
     "9d440E9et80D9d440E9et80D9eys0E9d6w0D9d1c0E9d1c0D9d1c0E9d1c0D9d1c0E9d1c0D9d1c0E9d1c0D",
     "iq5g0C9d1c0D9q000C9d1c0D9d1c0C9d1c0D9d1c0C9d1c0D9d1c0C9d1c0D9d1c0C9d1c0D9d1c0C9q000D",
     "asw00C7x6o0Dasw00C7x6o0Dasys0C7x6o0Db5uo0C19dc00D"],
    "7200 10800 3 5 0 10800 10 5 0 14400"),
  ("Europe/Tirane", "4760 3600 7200",
    ["-t85vo8Bdt2gw8C18pew0B7k800Cm800Bg7ot40C7rjw0Bautg0C7x3w0Bayis0C7x3w0Bb5xg0C7k580Bb42s0C",
     "7lzw0Bb42s0C7lzw0Bb42s0C7x3w0Bahus0C7x3w0Bb5xg0C7x3w0Ba4w40C8jbw0B9eys0C9d6w0B9d1c0C",
     "9d1c0B9d1c0C9d1c0B9d1c0C9d1c0B9d1c0C9d1c0B9d1c0C9d1c0B9d1c0C9q000B9d1c0C9d1c0B9d1c0C",
     "9d1c0B9d1c0C9d1c0B9d1c0C9d1c0B9d1c0C9d1c0B9q000C"],
    "3600 7200 3 5 0 7200 10 5 0 10800"),
  ("Europe/Ulyanovsk", "11616 10800 14400 18000 7200",
    ["-qcx400B5q5zo0Cqi27w0D9et80C9d440D9et80C9d440D9et80C9eys0D9d6w0C9d1c0D9d1c0C9d1c0D9d1c0C",
     "9d1c0D9d1c0C9d1c0D9d1c0Ciq5g0B9d1c0C9q000Biq5g0E5reo0B3ljw0C9d1c0B9d1c0C9d1c0B9d1c0C",
     "9d1c0B9d1c0C9d1c0B9q000Casw00B7x6o0Casw00B7x6o0Casw00B7x6o0Cb5uo0B7k800Cb5uo0B7k800C",
     "b5uo0B7x6o0Casw00B7x6o0Casw00B7x6o0Cb5uo0B7k800Cb5uo0B7k800Cb5uo0B7k800Cb5uo0B7x6o0C",
     "asw00B7x6o0Casw00B7x6o0Cb5uo0B7k800C1vbzw0Bqnc40C"],
    ""),
  ("Europe/Vienna", "3921 3600 7200",
    ["-14211oxBc1n1gxC7ves0Ba4yw0C7x6o0Basw00C7x6o0Bt6000C8a5c0Ba7a800C1cm000B7k800C9q000B",
     "9d1c0C9d1c0B9d1c0Ciio0Bivmo0C91xc0B9b6o0C9d1c0Ba2yo0C8n400Bgfyyg0C8zzw0B9d9o0C9d1c0B",
     "9d1c0C9d1c0B9d1c0C9d1c0B9d1c0C9q000B9d1c0C9d1c0B9d1c0C9d1c0B9d1c0C9d1c0B9d1c0C9d1c0B",
     "9d1c0C9d1c0B9d1c0C9q000B9d1c0C9d1c0B9d1c0C9d1c0B9d1c0C9d1c0B9d1c0C9d1c0B9d1c0C9d1c0B",
     "9q000C"],
    "3600 7200 3 5 0 7200 10 5 0 10800"),
  ("Europe/Vilnius", "6076 5040 5736 3600 7200 10800 14400",
    ["-1ayy7csBjb5y4sC1g224oDe75ncE4kqk0Dacbs40Fgpp40Epits0D7k800E9q000D9d1c0E65zo0Fj4vx80G",
     "9et80F9d440G9et80F9d440G9et80F9eys0G9d6w0F9d1c0G9d1c0F9d1c0G9d1c0F9d1c0G9d1c0F9d1c0G",
     "9d1c0Fiq5g0E9d1c0F9q000E9d1c0F9d1c0E9d1c0F9d1c0E9d1c0F9d1c0E9d1c0F9d1c0E9d1c0F9d1c0E",
     "9q000Fasw00E7x6o0Fasw00Eiq5g0D7x6o0E2399c0F"],
    "7200 10800 3 5 0 10800 10 5 0 14400"),
  ("Europe/Volgograd", "10660 10800 14400 18000",
    ["-q3cw84B5glrw4Cqi27w0D9et80C9d440D9et80C9d440D9et80C9eys0D9d6w0C9d1c0D9d1c0C9d1c0D9d1c0C",
     "9d1c0D9d1c0Ciq5g0B9d1c0C9d1c0B9d1c0C9q000B9d1c0Cs3400B9d1c0C9d1c0B9d1c0C9d1c0B9d1c0C",
     "9d1c0B9q000Casw00B7x6o0Casw00B7x6o0Casw00B7x6o0Cb5uo0B7k800Cb5uo0B7k800Cb5uo0B7x6o0C",
     "asw00B7x6o0Casw00B7x6o0Cb5uo0B7k800Cb5uo0B7k800Cb5uo0B7k800Cb5uo0B7x6o0Casw00B7x6o0C",
     "asw00B7x6o0Cb5uo0B7k800C1vbzw0B239c40C14oqk0B"],
    ""),
  ("Europe/Warsaw", "5040 3600 7200 10800",
    ["-se9yk0Bdvyc0C7ves0Ba4yw0C7x6o0Basw00Ciruk0D7x6o0C1evbs0B9fcwc0C18cao0B7k800C9q000B",
     "9d1c0C9gnw0Ban980C9kd80B8fs40C922w0Bar1c0C7x6o0Ba2yo0C8n400B9q000C902o0B4013w0C64dc0B",
     "9d1c0C9d1c0Bclpc0C6hc00B9d1c0C9d1c0Bc8qo0C6hc00Bc8qo0C6hc00Bc8qo0C6hc00Bclpc0C64dc0B",
     "6j4tc0C902o0B9q000C9d1c0B9d1c0C9d1c0B9q000C902o0B9d1c0C9d1c0B9d1c0C9d1c0B9d1c0C9d1c0B",
     "9d1c0C9q000B9d1c0C9d1c0B9d1c0C9d1c0B9d1c0C9d1c0B9d440C9d1c0B9d1c0C9d1c0B9d1c0C9q000B",
     "9d1c0C9d1c0B9d1c0C9d1c0B9d1c0C9d1c0B9d1c0C9d1c0B9d1c0C9d1c0B9q000C"],
    "3600 7200 3 5 0 7200 10 5 0 10800"),
  ("Europe/Zurich", "2048 1786 3600 7200",
    ["-1os49kwBlc05jaCohmxdmD7x6o0Casw00D7x6o0Ck2zus0D9d1c0C9d1c0D9d1c0C9d1c0D9d1c0C9d1c0D",
     "9q000C9d1c0D9d1c0C9d1c0D9d1c0C9d1c0D9d1c0C9d1c0D9d1c0C9d1c0D9d1c0C9d1c0D9q000C9d1c0D",
     "9d1c0C9d1c0D9d1c0C9d1c0D9d1c0C9d1c0D9d1c0C9d1c0D9d1c0C9q000D"],
    "3600 7200 3 5 0 7200 10 5 0 10800")]

end Automation.Zone
