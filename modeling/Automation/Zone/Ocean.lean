/-
# Zones of the oceans, Australia, Antarctica and the fixed offsets

One entry for each zone: its name, the offsets it ever had in seconds, the
changes between them, and the rule of later years (`Zone.Entry`).
-/
import Automation.Zone.Entry

namespace Automation.Zone

def oceanZones : List Entry := [
  ("Antarctica/Casey", "0 28800 39600",
    ["-irxc0Blag4o0C73bo0Buz1o0C60l80B2fnh80Cpz9g0Bat4c0C89u80Bacgc0C80no0Basw1oC89wycBag5poC",
     "89wycBag5poC84lacB"],
    ""),
  ("Antarctica/Davis", "0 25200 18000",
    ["-6rmdc0B42jdw0A27wgs0Bl8uss0C7eqs0Bunmk0C60qs0B"],
    ""),
  ("Antarctica/Macquarie", "0 36000 39600",
    ["-10mb9c0B8ts4g0C902o0B11wns0Af4kh40Ba6p8g0C9d1c0Basw00C6uao0Bbvs00C6uao0Bbvs00C779c0B",
     "bvs00C64dc0Bclpc0C6hc00Bc8qo0C6hc00Bc8qo0C6hc00Bc8qo0C6uao0Bc8qo0C6hc00Bc8qo0C6hc00B",
     "c8qo0C6hc00Bc8qo0C6hc00Bc8qo0C6hc00Bc8qo0C7x6o0Bb5uo0C7k800Bb5uo0C6hc00Bc8qo0C6hc00B",
     "c8qo0C6hc00Bbvs00C7k800Bbitc0C7k800Bbitc0C779c0Bbitc0C779c0Bbitc0C7x6o0B9q000C902o0B",
     "9q000C902o0B9q000C902o0B9q000C902o0B9q000C9d1c0B9q000C902o0B9q000C902o0B9q000C902o0B",
     "9q000C902o0B7x6o0Casw00Ba2yo0C902o0B9q000C902o0B9q000C902o0B9q000C902o0B9q000C9d1c0B",
     "9d1c0C902o0Ba2yo0C9d1c0B9d1c0C9d1c0B9d1c0Cs3400B"],
    "36000 39600 10 1 0 7200 4 1 0 10800"),
  ("Antarctica/Mawson", "0 21600 18000", ["-8aelc0Bt22y80C"], ""),
  ("Antarctica/Palmer", "0 -10800 -14400 -7200",
    ["-2lxhc0B31ho0Cbqas0B71mk0Cbqas0B8ovw0C9d440B9px80C9d440B9cyk0C9d440B28t6k0D51ek0B46b6s0C",
     "8c2s0B7x3w0Casys0B7x3w0Cb5xg0B7k580Cb5xg0B7k580Cb5xg0B9cyk0C9d440B7x3w0Casys0B7x3w0C",
     "b5xg0B7k580C9q2s0B8zzw0Cb5xg0B7x3w0Casys0B7x3w0Casys0B7x3w0Casys0B7x3w0Cb5xg0B7k580C",
     "b5xg0B8n180Ca31g0B7x3w0Ca31g0B9px80C9q2s0B7x3w0Cb5xg0B7k580Cb5xg0B7k580Cb5xg0B7k580C",
     "b5xg0B7x3w0Casys0B7x3w0Casys0B7x3w0Cb5xg0B7k580Cb5xg0B8n180Ca31g0B7x3w0Casys0B8zzw0C",
     "9q2s0Bast80C5eis0Bcyl80C6hes0Bc8nw0C6udg0Bbvp80C6udg0Bvonw0C4olg0B"],
    ""),
  ("Antarctica/Rothera", "0 -10800", ["3lxs00B"], ""),
  ("Antarctica/Troll", "0 7200", ["idzk40B"], "0 7200 3 5 0 3600 10 5 0 10800"),
  ("Antarctica/Vostok", "0 25200 18000", ["-6aaao0Biushw0Ae23g0Bf79gs0C"], ""),
  ("Atlantic/Azores", "-6160 -6872 -7200 -3600 0 3600",
    ["-18vsdwwBem124wC2bufw0D6zxg0C66800Dbq580C71s40Dbq580C71s40Dbq580C73ms0Dbq580C71s40D",
     "bq580C1b2g00D8so00Cst1c0D8n400C9q000D902o0Ca2yo0D902o0Ca2yo0D8n400Cst1c0D8n400C9d1c0D",
     "9d1c0Csg2o0D9d1c0C902o0D9q000Ca2yo0D8n400C9d1c0D9d1c0C902o0D9q000Ca2yo0Db5uo0C51hc0D",
     "bmio0C99c00D9ew00C88ao0D25p80E5reo0D3lpg0C779c0D1sqk0E6uao0D38qs0C6uao0D25p80E6hc00D",
     "38qs0C6uao0D25p80E6hc00D38qs0C8a5c0D9d1c0C9d9o0D9d1c0C9d1c0D9d1c0C9d1c0D9d1c0C9d1c0D",
     "9d1c0C9d1c0D9q000C9d1c0D9d1c0C9d1c0D9d1c0C9d1c0D9d1c0C9d1c0D9d1c0C9d1c0D9q000C9d1c0D",
     "9d1c0C9d1c0D9d1c0C9d1c0D9d1c0C9d1c0D9d1c0C9d1c0D9d1c0C9d1c0D9q000C9d1c0D9d1c0C9d1c0D",
     "9d1c0C9d1c0D9d1c0C9d1c0D8cavo0E9d1c0D9d1c0E9d1c0D9d1c0E9q000D9d1c0E9d1c0D9d1c0E9d1c0D",
     "9d1c0E9d1c0D9d1c0E9d1c0D9d1c0E9d1c0D9d1c0E9q000D9d1c0E9d1c0D9d1c0E9d1c0D4olg0E4ofw0F",
     "46000E571c0D9d1c0E9d1c0D9d1c0E9d1c0D9q000E"],
    "-3600 0 3 5 0 0 10 5 0 3600"),
  ("Atlantic/Bermuda", "-15558 -11958 -14400 -10800",
    ["-rivvzuB95jw0Aa16s0B7yyk0A5w74c0C69z5ruDeefw0C7x9g0Dbiqk0C6udg0Dc8nw0C6hes0Dc8nw0Cst440D",
     "64ak0Ccyqs0D5ed80Cdbpg0D5ed80Cdoo40D51ek0Cdoo40D51ek0Cdoo40D5ed80C1xuw40D7x3w0C94r9g0D",
     "9cyk0C9d440D9cyk0C9d440D9px80C905g0D9px80C9d440D9cyk0C9d440D9cyk0C9d440D9cyk0C9d440D",
     "9cyk0C9d440D9px80C905g0D9px80C9d440D9cyk0C9d440D9cyk0C9d440D9cyk0C8a840Dafuk0C8a840D",
     "ast80C7x9g0Dast80C7x9g0Dast80C8a840Dafuk0C8a840Dafuk0C8a840Dast80C7x9g0Dast80C7x9g0D",
     "ast80C8a840Dafuk0C8a840Dafuk0C8a840Dafuk0C8a840Dast80C7x9g0Dast80C7x9g0Dast80C8a840D",
     "afuk0C8a840Dafuk0C8a840Dast80C7x9g0Dast80C7x9g0Dast80C6udg0D"],
    "-14400 -10800 3 2 0 7200 11 1 0 7200"),
  ("Atlantic/Canary", "-3696 -3600 0 3600",
    ["-oytbtcBctvupcChhq7s0D905g0C9d1c0D9d1c0C9d1c0D9d1c0C9d1c0D9d1c0C9d1c0D9q000C9d1c0D9d1c0C",
     "9d1c0D9d1c0C9d1c0D9d1c0C9d1c0D9d1c0C9d1c0D9d1c0C9d1c0D9q000C9d1c0D9d1c0C9d1c0D9d1c0C",
     "9d1c0D9d1c0C9d1c0D9d1c0C9d1c0D9d1c0C9q000D"],
    "0 3600 3 5 0 3600 10 5 0 7200"),
  ("Atlantic/Cape_Verde", "-5644 -7200 -3600", ["-u9rbs0Bg06lc0C1mn180Bfpqwc0C"], ""),
  ("Atlantic/Faroe", "-1624 0 3600",
    ["-wcehewB127keuwC9d1c0B9d1c0C9d1c0B9d1c0C9d1c0B9d1c0C9q000B9d1c0C9d1c0B9d1c0C9d1c0B9d1c0C",
     "9d1c0B9d1c0C9d1c0B9d1c0C9d1c0B9d1c0C9q000B9d1c0C9d1c0B9d1c0C9d1c0B9d1c0C9d1c0B9d1c0C",
     "9d1c0B9d1c0C9d1c0B9q000C"],
    "0 3600 3 5 0 3600 10 5 0 7200"),
  ("Atlantic/Madeira", "-4056 -3600 0 3600",
    ["-u9rek0B2bufw0C6zxg0B66800Cbq580B71s40Cbq580B71s40Cbq580B73ms0Cbq580B71s40Cbq580B1b2g00C",
     "8so00Bst1c0C8n400B9q000C902o0Ba2yo0C902o0Ba2yo0C8n400Bst1c0C8n400B9d1c0C9d1c0Bsg2o0C",
     "9d1c0B902o0C9q000Ba2yo0C8n400B9d1c0C9d1c0B902o0C9q000Ba2yo0Cb5uo0B51hc0Cbmio0B99c00C",
     "9ew00B88ao0C25p80D5reo0C3lpg0B779c0C1sqk0D6uao0C38qs0B6uao0C25p80D6hc00C38qs0B6uao0C",
     "25p80D6hc00C38qs0B8a5c0C9d1c0B9d9o0C9d1c0B9d1c0C9d1c0B9d1c0C9d1c0B9d1c0C9d1c0B9d1c0C",
     "9q000B9d1c0C9d1c0B9d1c0C9d1c0B9d1c0C9d1c0B9d1c0C9d1c0B9d1c0C9q000B9d1c0C9d1c0B9d1c0C",
     "9d1c0B9d1c0C9d1c0B9d1c0C9d1c0B9d1c0C9d1c0B9d1c0C9q000B9d1c0C9d1c0B9d1c0C9d1c0B9d1c0C",
     "9d1c0B9d1c0C8cnuc0D902o0C9d1c0D9d1c0C9d1c0D9q000C9d1c0D9d1c0C9d1c0D9d440C9d1c0D9d1c0C",
     "9d1c0D9d1c0C9d1c0D9d1c0C9d1c0D9q000C9d1c0D9d1c0C9d1c0D9d1c0C9d1c0D9d1c0C9d1c0D9d1c0C",
     "9d1c0D9d1c0C9q000D"],
    "0 3600 3 5 0 3600 10 5 0 7200"),
  ("Atlantic/South_Georgia", "-8768 -7200", ["-15r12kgB"], ""),
  ("Atlantic/Stanley", "-13884 -14400 -10800 -7200",
    ["-u63pacBdbvxqcC8zzw0B9q2s0C8zzw0Ba31g0C8zzw0B9q2s0C8zzw0B9q2s0C8zzw0B9q2s0C4xp80Bl1pus0C",
     "7k580Db5rw0C77c40Dbiqk0Cid6s0B7kas0Cb5rw0B7kas0Cb5rw0B7kas0Cb5rw0B7kas0Cbiqk0B77c40C",
     "biqk0B7kas0Cb5rw0B7kas0Cb5rw0B7kas0Cb5rw0B7kas0Cb5rw0B7kas0Cbiqk0B7kas0Cb5rw0B7kas0C",
     "b5rw0B7kas0Cb5rw0B7kas0Cb5rw0B7kas0Cb5xg0B77c40Cbvp80B6udg0Cbvp80B77c40Cbiqk0B77c40C",
     "biqk0B77c40Cbiqk0B77c40Cbiqk0B77c40Cbvp80B77c40Cbiqk0B77c40Cbiqk0B77c40C"],
    ""),
  ("Australia/Adelaide", "33260 32400 34200 37800",
    ["-133j2zwB27qdzwC97zyu0D49pc0Ccxfk00D4h400C9d1c0D9d1c0C9q000D902o0Ceeio00D64dc0Cclpc0D",
     "6hc00Cc8qo0D6hc00Cc8qo0D6hc00Cc8qo0D6uao0Cc8qo0D6hc00Cc8qo0D6hc00Cc8qo0D6hc00Cc8qo0D",
     "6hc00Cc8qo0D6hc00Cc8qo0D6uao0Cc8qo0D6hc00Cc8qo0D6hc00Cc8qo0D6hc00Cc8qo0D779c0Cb5uo0D",
     "7k800Cbitc0D7k800Cbitc0D779c0Cbitc0D779c0Cbitc0D6hc00Cc8qo0D7k800Cb5uo0D6uao0Cc8qo0D",
     "779c0Cbitc0D7k800Cb5uo0D7x6o0Casw00D7x6o0Casw00D7x6o0Casw00D7x6o0Cb5uo0D7k800Cb5uo0D",
     "7k800Cb5uo0D7x6o0Casw00D7x6o0Casw00D7x6o0Cb5uo0D7k800Cb5uo0D7x6o0Casw00D7k800Cb5uo0D"],
    "34200 37800 10 1 0 7200 4 1 0 10800"),
  ("Australia/Brisbane", "36728 36000 39600",
    ["-1354kc8Bbhbss8C49pc0Bcxfk00C4h400B9d1c0C9d1c0B9q000C902o0Beeio00C64dc0B97zuo0C6hc00B",
     "c8qo0C6hc00Bc8qo0C6hc00B"],
    ""),
  ("Australia/Broken_Hill", "33948 36000 32400 34200 37800",
    ["-133j3j0Bt9nr0C1egqs0D97zyu0E49pc0Dcxfk00E4h400D9d1c0E9d1c0D9q000E902o0Deeio00E64dc0D",
     "clpc0E6hc00Dc8qo0E6hc00Dc8qo0E6hc00Dc8qo0E6uao0Dc8qo0E6hc00Dc8qo0E6hc00Dc8qo0E6hc00D",
     "c8qo0E6hc00Dc8qo0E6hc00Dc8qo0E8a5c0Dasw00E6hc00Dc8qo0E6hc00Dc8qo0E6hc00Dc8qo0E779c0D",
     "b5uo0E7k800Dbitc0E7k800Dbitc0E779c0Dbitc0E6hc00Dc8qo0E6hc00Dc8qo0E6hc00Dc8qo0E6uao0D",
     "c8qo0E6hc00Dc8qo0E6hc00Dc8qo0E7x6o0Dasw00E7x6o0Dasw00E7x6o0Dasw00E7x6o0Db5uo0E7k800D",
     "b5uo0E7k800Db5uo0E7x6o0Dasw00E7x6o0Dasw00E7x6o0Db5uo0E7k800Db5uo0E7x6o0Dasw00E7k800D",
     "b5uo0E"],
    "34200 37800 10 1 0 7200 4 1 0 10800"),
  ("Australia/Darwin", "31400 32400 34200 37800",
    ["-133j1k8B27qck8C97zyu0D49pc0Ccxfk00D4h400C9d1c0D9d1c0C9q000D902o0C"],
    ""),
  ("Australia/Eucla", "30928 31500 35100",
    ["-12nxx74Bb05944C49pc0Bcxfk00C4h400B9d1c0C9d1c0Bgheyo0C6hc00B4ir9c0C6hc00B40r400C5eg00B",
     "7p9hc0C5reo0Bb5uo0C7x6o0Basw00C7x6o0B"],
    ""),
  ("Australia/Hobart", "35356 36000 39600",
    ["-12smja4Bb03ee4C902o0Bb5uo0C6hc00Bc8qo0C6hc00Bbx2ao0C4h400B9d1c0C9d1c0B9q000C902o0B",
     "c9tk00C9d1c0Basw00C6uao0Bbvs00C6uao0Bbvs00C779c0Bbvs00C64dc0Bclpc0C6hc00Bc8qo0C6hc00B",
     "c8qo0C6hc00Bc8qo0C6uao0Bc8qo0C6hc00Bc8qo0C6hc00Bc8qo0C6hc00Bc8qo0C6hc00Bc8qo0C6hc00B",
     "c8qo0C7x6o0Bb5uo0C7k800Bb5uo0C6hc00Bc8qo0C6hc00Bc8qo0C6hc00Bbvs00C7k800Bbitc0C7k800B",
     "bitc0C779c0Bbitc0C779c0Bbitc0C7x6o0B9q000C902o0B9q000C902o0B9q000C902o0B9q000C902o0B",
     "9q000C9d1c0B9q000C902o0B9q000C902o0B9q000C902o0B9q000C902o0B7x6o0Casw00Ba2yo0C902o0B",
     "9q000C902o0B9q000C902o0B9q000C902o0B9q000C9d1c0B9d1c0C902o0Ba2yo0C"],
    "36000 39600 10 1 0 7200 4 1 0 10800"),
  ("Australia/Lindeman", "35756 36000 39600",
    ["-1354jl8Bbhbs18C49pc0Bcxfk00C4h400B9d1c0C9d1c0B9q000C902o0Beeio00C64dc0B97zuo0C6hc00B",
     "c8qo0C6hc00Bc8qo0C6hc00Bc8qo0C6uao0Bc8qo0C6hc00B"],
    ""),
  ("Australia/Lord_Howe", "38180 36000 37800 41400 39600",
    ["-133j6skB18x8f0kCc8uu0D6u7w0Cc8tg0D6h980Cc8tg0D6h980Cc8tg0D6h980Cc8tg0E777y0Cb5w20E",
     "7k6m0Cbiuq0E7k6m0Cbiuq0E777y0Cbiuq0E6ham0Cc8s20E6ham0Cc8s20E6ham0Cc8s20E6u9a0Cc8s20E",
     "6ham0Cc8s20E6ham0Cc8s20E7x5a0Casxe0E7x5a0Casxe0E7x5a0Casxe0E7x5a0Cb5w20E7k6m0C7x820E",
     "asum0Cb5w20E7x5a0Casxe0E7x5a0Casxe0E7x5a0Cb5w20E7k6m0Cb5w20E7x5a0Casxe0E7k6m0Cb5w20E"],
    "37800 39600 10 1 0 7200 4 1 0 7200"),
  ("Australia/Melbourne", "34792 36000 39600",
    ["-133j46gBbfqcmgC49pc0Bcxfk00C4h400B9d1c0C9d1c0B9q000C902o0Beeio00C64dc0Bclpc0C6hc00B",
     "c8qo0C6hc00Bc8qo0C6hc00Bc8qo0C6uao0Bc8qo0C6hc00Bc8qo0C6hc00Bc8qo0C6hc00Bc8qo0C6hc00B",
     "c8qo0C6hc00Bc8qo0C6uao0Bc8qo0C6hc00Bc8qo0C6hc00Bc8qo0C6hc00Bc8qo0C779c0Bb5uo0C7k800B",
     "b5uo0C7x6o0Bbitc0C779c0Bbitc0C779c0Bbitc0C6hc00Bc8qo0C6hc00Bc8qo0C6uao0Bc8qo0C6hc00B",
     "c8qo0C7k800Bb5uo0C7x6o0Basw00C7x6o0Basw00C7x6o0Basw00C7x6o0Bb5uo0C7k800B7x6o0Casw00B",
     "b5uo0C7x6o0Basw00C7x6o0Basw00C7x6o0Bb5uo0C7k800Bb5uo0C7x6o0Basw00C7k800Bb5uo0C"],
    "36000 39600 10 1 0 7200 4 1 0 10800"),
  ("Australia/Perth", "27804 28800 32400",
    ["-12nxuscBb058scC49pc0Bcxfk00C4h400B9d1c0C9d1c0Bgheyo0C6hc00B4ir9c0C6hc00B40r400C5eg00B",
     "7p9hc0C5reo0Bb5uo0C7x6o0Basw00C7x6o0B"],
    ""),
  ("Australia/Sydney", "36292 36000 39600",
    ["-133j5c4Bbfqds4C49pc0Bcxfk00C4h400B9d1c0C9d1c0B9q000C902o0Beeio00C64dc0Bclpc0C6hc00B",
     "c8qo0C6hc00Bc8qo0C6hc00Bc8qo0C6uao0Bc8qo0C6hc00Bc8qo0C6hc00Bc8qo0C6hc00Bc8qo0C6hc00B",
     "c8qo0C6hc00Bc8qo0C8a5c0Basw00C6hc00Bc8qo0C6hc00Bc8qo0C6hc00Bc8qo0C779c0Bb5uo0C7k800B",
     "bitc0C7k800Bbitc0C779c0Bbitc0C6hc00Bc8qo0C6hc00Bc8qo0C6hc00Bc8qo0C6uao0Bc8qo0C6hc00B",
     "c8qo0C6hc00Bc8qo0C7x6o0Basw00C7x6o0Basw00C7x6o0Basw00C7x6o0Bb5uo0C7k800B7x6o0Casw00B",
     "b5uo0C7x6o0Basw00C7x6o0Basw00C7x6o0Bb5uo0C7k800Bb5uo0C7x6o0Basw00C7k800Bb5uo0C"],
    "36000 39600 10 1 0 7200 4 1 0 10800"),
  ("Etc/GMT", "0", [], ""),
  ("Etc/GMT+1", "-3600", [], ""),
  ("Etc/GMT+10", "-36000", [], ""),
  ("Etc/GMT+11", "-39600", [], ""),
  ("Etc/GMT+12", "-43200", [], ""),
  ("Etc/GMT+2", "-7200", [], ""),
  ("Etc/GMT+3", "-10800", [], ""),
  ("Etc/GMT+4", "-14400", [], ""),
  ("Etc/GMT+5", "-18000", [], ""),
  ("Etc/GMT+6", "-21600", [], ""),
  ("Etc/GMT+7", "-25200", [], ""),
  ("Etc/GMT+8", "-28800", [], ""),
  ("Etc/GMT+9", "-32400", [], ""),
  ("Etc/GMT-1", "3600", [], ""),
  ("Etc/GMT-10", "36000", [], ""),
  ("Etc/GMT-11", "39600", [], ""),
  ("Etc/GMT-12", "43200", [], ""),
  ("Etc/GMT-13", "46800", [], ""),
  ("Etc/GMT-14", "50400", [], ""),
  ("Etc/GMT-2", "7200", [], ""),
  ("Etc/GMT-3", "10800", [], ""),
  ("Etc/GMT-4", "14400", [], ""),
  ("Etc/GMT-5", "18000", [], ""),
  ("Etc/GMT-6", "21600", [], ""),
  ("Etc/GMT-7", "25200", [], ""),
  ("Etc/GMT-8", "28800", [], ""),
  ("Etc/GMT-9", "32400", [], ""),
  ("Etc/UTC", "0", [], ""),
  ("Factory", "0", [], ""),
  ("Indian/Chagos", "17380 18000 21600", ["-wvpc2sB1ag64usC"], ""),
  ("Indian/Maldives", "17640 18000", ["-57x6y0B"], ""),
  ("Indian/Mauritius", "13800 14400 18000", ["-wvp9bcB13jnu7cC8bx80Bdd0wc0C7x3w0B"], ""),
  ("Pacific/Apia", "45184 -41216 -41400 -39600 -36000 50400 46800",
    ["-14fxxj4B9nfeo0Ckcrmt4Dvp3la0E9odo0D902o0E4zbk0F4qog0G9d1c0F9q000G902o0F9q000G902o0F",
     "9q000G902o0F9q000G902o0F9q000G902o0F9q000G9d1c0F9q000G902o0F9q000G902o0F9q000G"],
    ""),
  ("Pacific/Auckland", "41944 41400 45000 43200 46800",
    ["-1gsoz14Busn9z4C64ak0Bbiw40D7x5a0Basxe0D7x5a0Basxe0D7x5a0Basxe0D8a3y0Bafyq0D8a3y0Bafyq0D",
     "afvy0B7x820Dasum0B7x820Dasum0B7x820Dasum0B7x820Dasum0B7x820Db5ta0B7k9e0Db5ta0B7x820D",
     "hsl2m0E5reo0Dclpc0E6uao0Dc8qo0E6hc00Dc8qo0E6hc00Dc8qo0E6hc00Dc8qo0E6hc00Dc8qo0E6hc00D",
     "c8qo0E6uao0Dc8qo0E6hc00Dc8qo0E6hc00Dc8qo0E6hc00Dc8qo0E6hc00Dc8qo0E6hc00Dc8qo0E6uao0D",
     "c8qo0E6hc00Db5uo0E8a5c0Dafxc0E8a5c0Dafxc0E8a5c0Dafxc0E8n400Da2yo0E8n400Da2yo0E8n400D",
     "a2yo0E8n400Dafxc0E8a5c0Dafxc0E8a5c0Dafxc0E8n400Da2yo0E8n400Da2yo0E8n400Dafxc0E8a5c0D",
     "afxc0E8a5c0Dafxc0E8n400Da2yo0E8n400Da2yo0E8n400Da2yo0E8n400Da2yo0E"],
    "43200 46800 9 5 0 7200 4 1 0 10800"),
  ("Pacific/Bougainville", "37336 35312 36000 32400 39600", ["-1ayyvh4B7tuc88Cosc24wD1n05g0C1071c40E"], ""),
  ("Pacific/Chatham", "44028 44100 45900 49500",
    ["-1gsp0n0B149qqm0Cf1tq90D5reo0Cclpc0D6uao0Cc8qo0D6hc00Cc8qo0D6hc00Cc8qo0D6hc00Cc8qo0D",
     "6hc00Cc8qo0D6hc00Cc8qo0D6uao0Cc8qo0D6hc00Cc8qo0D6hc00Cc8qo0D6hc00Cc8qo0D6hc00Cc8qo0D",
     "6hc00Cc8qo0D6uao0Cc8qo0D6hc00Cb5uo0D8a5c0Cafxc0D8a5c0Cafxc0D8a5c0Cafxc0D8n400Ca2yo0D",
     "8n400Ca2yo0D8n400Ca2yo0D8n400Cafxc0D8a5c0Cafxc0D8a5c0Cafxc0D8n400Ca2yo0D8n400Ca2yo0D",
     "8n400Cafxc0D8a5c0Cafxc0D8a5c0Cafxc0D8n400Ca2yo0D8n400Ca2yo0D8n400Ca2yo0D8n400Ca2yo0D"],
    "45900 49500 9 5 0 9900 4 1 0 13500"),
  ("Pacific/Easter", "-26248 -25200 -21600 -18000",
    ["-jhfaewBivmeuwC7k580Bc8tg0C6h980Ba31g0C7x3w0Basys0C7x3w0Bb5xg0C7k580Bag040C8a2k0Bb5xg0C",
     "7k580Bb5xg0C7x3w0Basys0C7x3w0Basys0C7x3w0Bb5xg0C7k580Bb5xg0C7k580Bb5xg0C7x3w0Basys0C",
     "iq2o0D7x3w0Casys0D7x3w0Cb5xg0D7k580Cb5xg0D7k580Cb5xg0D9cyk0C9d440D7x3w0Casys0D7x3w0C",
     "b5xg0D7k580C9q2s0D8zzw0Cb5xg0D7x3w0Casys0D7x3w0Casys0D7x3w0Casys0D7x3w0Cb5xg0D7k580C",
     "b5xg0D8n180Ca31g0D7x3w0Ca31g0D9px80C9q2s0D7x3w0Cb5xg0D7k580Cb5xg0D7k580Cb5xg0D7k580C",
     "b5xg0D7x3w0Casys0D7x3w0Casys0D7x3w0Cb5xg0D7k580Cb5xg0D8n180Ca31g0D7x3w0Casys0D8zzw0C",
     "9q2s0Dast80C5eis0Dcyl80C6hes0Dc8nw0C6udg0Dbvp80C6udg0Dvonw0C4olg0De1h80C4olg0De1h80C",
     "4olg0Dc8nw0C7x9g0Dast80C7x9g0Dast80C7x9g0Dast80C8a840D"],
    "-21600 -18000 9 1 6 79200 4 1 6 79200"),
  ("Pacific/Efate", "40396 39600 43200",
    ["-u964i4Bwbu364C51hc0B4y8qs0C9cyk0B9d440C9cyk0B9q2s0C8zzw0B9q2s0C9cyk0B9d440C9cyk0B9d440C",
     "9cyk0B9d440C9cyk0B9d440C9cyk0B9q2s0C64ak0Be1ms0C4ofw0B"],
    ""),
  ("Pacific/Fakaofo", "-41096 -39600 46800", ["-100dhmgB1lxe1igC"], ""),
  ("Pacific/Fiji", "42944 43200 46800",
    ["-sa2x4wB17bs00wC64dc0Bcyo00C5reo0B53a5c0C64dc0Basw00C6uao0Bbvs00C4oio0Be1k00C4oio0B",
     "eeio0C4bh80Berk40C3ylc0Berhc0C3ylc0Bf4g00C3lmo0Bf4g00C3lmo0Bf4g00C3lmo0Bfheo0C38o00B",
     "hn6o0C1fuo0B"],
    ""),
  ("Pacific/Galapagos", "-21504 -18000 -21600", ["-kcr62oBspdryoC3lsas0B3jp80C"], ""),
  ("Pacific/Gambier", "-32388 -32400", ["-tvndocB"], ""),
  ("Pacific/Guadalcanal", "38388 39600", ["-tvowacB"], ""),
  ("Pacific/Guam", "-51660 34740 36000 32400 39600",
    ["-1t8j1h0Bt83xc0Cld6pp0D1dl9g0C7s1k40Etxp80C3frms0EqdrpoC7kgacE3ljw0Cc8tg0E6u7w0Cbvus0E",
     "6u7w0C16uo40E3ljw0C16aas0E4ivxoCcls2cE6h980C"],
    ""),
  ("Pacific/Honolulu", "-37886 -37800 -34200 -36000",
    ["-12lnw3mBjgnatmC13l00B4jvb00C1wd180Bvotg0D"],
    ""),
  ("Pacific/Kanton", "0 -43200 -39600 46800", ["-gvk800Blypqo0C7yiqk0D"], ""),
  ("Pacific/Kiritimati", "-37760 -38400 -36000 50400", ["-100dk74B153iz5sC7yirhcD"], ""),
  ("Pacific/Kosrae", "-47284 39116 39600 32400 36000 43200",
    ["-1t8j4ukBt83xc0C76a4ykD29hhk0C9cmd40E27sas0D29fk40Ccm2540Ff9l3w0C"],
    ""),
  ("Pacific/Kwajalein", "40160 39600 36000 32400 -43200 43200",
    ["-100f8bkBise0fkC27sas0D1hjus0Bddxug0Ecgv6k0F"],
    ""),
  ("Pacific/Marquesas", "-33480 -34200", ["-tvncu0B"], ""),
  ("Pacific/Nauru", "40060 41400 32400 43200", ["-pjxiwsBba66ysC1kwca0Bhfzda0D"], ""),
  ("Pacific/Niue", "-40780 -40800 -39600", ["-8zbv78B63yiokC"], ""),
  ("Pacific/Norfolk", "40312 40320 41400 45000 39600 43200",
    ["-100f8fsBq3einsCcfj8q0D6hc00Cl6nk00E239aq0F"],
    "39600 43200 10 1 0 7200 4 1 0 10800"),
  ("Pacific/Noumea", "39948 39600 43200",
    ["-u9645oBye0ixoC4dbw0Becqs0C4f6k0B99p700C4oio0B"],
    ""),
  ("Pacific/Pago_Pago", "45432 -40968 -39600", ["-14fxxq0B9nfeo0C"], ""),
  ("Pacific/Palau", "-54124 32276 32400", ["-1t8izkkBt83xc0C"], ""),
  ("Pacific/Pitcairn", "-31220 -30600 -28800", ["-100dp8sB1esg26sC"], ""),
  ("Pacific/Port_Moresby", "35320 35312 36000", ["-1ayytx4B7tuao8C"], ""),
  ("Pacific/Rarotonga", "48056 -38344 -37800 -34200 -36000",
    ["-10jifqwBrk6io0Cdlv68wD5rbw0Ec8s20D6ham0Ec8s20D6ham0Ec8s20D6u9a0Ec8s20D6ham0Ec8s20D",
     "6ham0Ec8s20D6ham0Ec8s20D6ham0Ec8s20D6ham0Ec8s20D6u9a0Ec8s20D6ham0Ec8s20D6ham0Ec8s20D",
     "6ham0E"],
    ""),
  ("Pacific/Tahiti", "-35896 -36000", ["-tvnaywB"], ""),
  ("Pacific/Tarawa", "41524 43200", ["-100f9dgB"], ""),
  ("Pacific/Tongatapu", "44352 44400 46800 50400",
    ["-corjk0B7znjyoCk8amdcD8fpc0Cbvs00D4bh80Ceelg0D4bh80C7pmis0D3lmo0C"],
    "")]

end Automation.Zone
