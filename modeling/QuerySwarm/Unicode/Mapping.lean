import QuerySwarm.Unicode.Runs

/-!
# What becomes of a character in a domain name

Every character of a domain name is kept, replaced by a sequence of characters, left out or
refused. Replacements are listed as series (a first character, a stride, a count and the first
replacement), as pairs, and as a character with the length of its replacement and that
replacement.
-/

namespace QuerySwarm.Unicode

/-- The characters that no domain name may have. -/
def refused : Runs := Runs.ofLines
  ["3k w k8 2 6 4 7 1 1 1 k 1 b1 1 12 2 1e 2 3 1 1j 8 r 4 6 h m 1 5c 1 1c 2 1n 2 2t e 1n 2 1d 2",
   "f 1 s 2 1 1 b 5 w 7 23 1 4h 1 8 2 2 2 m 1 7 1 1 3 4 2 9 2 2 2 4 8 1 4 2 1 5 2 p 2 3 1 6 4 2",
   "2 m 1 7 1 2 1 2 1 2 2 1 1 5 4 2 2 3 3 1 7 4 1 1 7 h a 3 1 9 1 3 1 m 1 7 1 2 1 5 2 a 1 3 1 3",
   "2 1 f 4 2 c 7 7 1 3 1 8 2 2 2 m 1 7 1 2 1 5 2 9 2 2 2 3 7 3 4 2 1 5 2 i a 2 1 6 3 3 1 4 3 2",
   "1 1 1 2 3 2 3 3 3 c 4 5 3 3 1 4 2 1 6 1 e l 5 d 1 3 1 n 1 g 2 9 1 3 1 4 7 2 1 3 1 2 2 4 2 a",
   "7 m 1 3 1 n 1 a 1 5 2 9 1 3 1 4 7 2 5 3 1 4 2 a 1 3 c d 1 3 1 1f 1 3 1 6 4 g 2 q 1 3 1 i 3 o",
   "1 9 1 1 2 7 3 1 4 6 1 1 1 8 6 a 2 3 c 1m 4 t 11 2 1 1 1 5 1 o 1 1 1 n 2 5 1 1 1 7 1 a 2 4 w",
   "20 1 10 4 13 1 10 1 f 1 d 11 5i 1 1 5 1 2 ah 1 4 2 7 1 1 1 4 2 15 1 4 2 x 1 4 2 7 1 1 1 4 2",
   "f 1 1l 1 4 2 1v 2 w 3 q 6 2e 2 6 2 hs 1 s 3 2h 7 m 9 o 9 k c d 1 3 1 2 c 2m 2 a 6 a 6 q 6 2h",
   "7 17 5 1y a v 1 c 4 c 4 1 3 16 2 5 b 18 4 q 6 b 3 1q 2 1t 1 t 2 b 6 a 6 e 2 1a 2 c k 25 1 4m",
   "8 1o 3 f 3 1q 5 17 2 b 8 17 5 eu 2 6 2 12 2 6 2 8 1 1 1 1 1 1 1 v 2 1h 1 f 1 e 2 6 1 j 2 3 1",
   "9 1 e 2 k 3 1 7 1i 5 8 2 r 1 d 3 y e x f 3w 4 ii m b l 14 k 1co 2 am 5 19 1 1 5 1 2 1k 7 2 e",
   "o 9 7 1 7 1 7 1 7 1 7 1 7 1 7 1 7 1 3i y q 1 2h c 5y 16 1s 1 2e 2 2v 5 17 1 2m 1 2e a 1b 1",
   "bm 1 4 1 g 1 m9g 3 1j 9 9o k 54 8 65 k 1o 3 a 6 1k 8 1y 8 c 6 38 b u 3 26 1 b 4 x 1 1j 9 e 2",
   "a 2 2v o s a 6 2 6 2 6 9 7 1 7 1 1o 4 3i 2 a 6 8mc c n 4 1d 6is a6 2 2y 12 7 c 5 5 q 1 5 1 1",
   "1 2 1 2 1 i2 w y 1 6 7 g 1 x 2 j 1 4 4 5 1 3r 2 1 1 5a 3 6 2 6 2 6 2 3 3 7 1 7 h c 1 q 1 j 1",
   "2 1 f 2 e y 3f 5 3 4 19 3 2g 1 d 3 1 1b 1a 3m t 3 1d f s 4 10 9 u 5 17 5 u 1 11 4 e 16 4e 2",
   "a 6 10 4 10 4 14 8 1g b c 1 f 1 7 1 2 1 b 1 f 1 7 1 2 3 1g c 8n 9 m a 8 o 6 1 16 1 9 1x 6 2",
   "1 1 18 1 2 3 1 2 n 1 20 8 9 1c j 1 2 5 x 3 r 5 r 12 1k 4 k 2 1e 1 2 5 8 1 3 1 t 2 3 4 a 7 9",
   "7 1s w 13 4 c 9 1i 3 t 2 r 5 q 7 4 c 7 28 21 1j 1f d 1f 7 1a 8 a 6 12 3 t 8 2 5s v 1 16 1 3",
   "2 2 g 6 8 9 x 1a 8 16 m q 12 s k n 9 26 4 10 9 1q 1 5 d p 7 a 6 1h 1 i 8 13 9 2o 1 k b i 1",
   "1b 1q 7 1 1 1 4 1 f 1 b 6 1n 5 a 6 4 1 8 2 2 2 m 1 7 1 2 1 5 1 a 2 2 2 3 2 1 6 1 5 7 2 7 3 5",
   "b a 1 1 2 1 1 12 1 a 1 1 2 1 1 4 1 a 1 2 8 2 t 2k 1 5 u 20 8 a 4m 1i 2 12 y 1x b a 6 d j 1m",
   "6 a 6 k s r 2 f 4 n 55 1o 2s 2b c 8 2 1 2 8 1 2 1 u 1 2 2 c 9 a 1y 8 2 1a 2 b r 20 8 2b d 21",
   "7 a 2e 8 2g y e a 6 9 1 19 1 e a t 3 w 2 m 1 e 21 7 1 2 1 18 3 1 1 2 1 9 8 a 6 6 1 2 1 11 1",
   "2 1 6 7 a 6 18 4 a 6u p 7 h 1 15 3 t 2d 1 f 1e d pn 2u 33 1 5 b 5g 218 2r d ts g m a 32z 5",
   "g7 5a1 1m 1c6 ft 7 v 1 a 4 29 1 a 6 u 2 6 a 1y a a 1 7 1 l 5 j c0 1m 5i 2j 5 p 2 p 18 23 4",
   "1l 7 h 1s 5 b 7 9 5p2 15 w 2p 37 6pp 4 1 7 1 2 1 83 f 1 t 3 2 1 e 4 8 b0 1s4 2z 5 d 3 9 7 a",
   "2 8 318 71 3 c4 6 n f h f 1a 2 n 9 38 1o 6u a 13 2 5e l 1y 3e k c k c 2f 9 p 3r 2d 1 1z 1 2",
   "2 1 2 2 2 4 1 c 1 1 1 7 1 1t 1 4 2 8 1 7 1 s 1 4 1 5 1 1 3 7 1 9g 2 84 2 ji f 5 1 f uo v 6 6",
   "5x 7 1 h 2 7 1 2 1 5 5 1q x 1 34 19 3 e 2 a 4 2 8w v h 1m 5 1 cw 16 5y 17 4 1 5c v 1 m 8 2",
   "68 7 1 4 1 2 1 f 1 5h 2 g 15 24 4 a 4 2 lt 1w 24 1p 5e 4 1 r 1 2 1 1 2 1 1 a 1 4 1 1 1 1 6 1",
   "4 1 1 1 1 1 1 3 1 2 1 1 2 1 1 1 1 1 1 1 1 1 1 2 1 1 2 4 1 7 1 4 1 4 1 1 1 a 1 h 5 3 1 5 1 h",
   "1g 2 7i 18 4 2s c f 2 f 1 f 1 11 b 4t 1k t d 18 4 9 7 2 e 6 4a rd 3 h 3 d 3 62 6 c 4 1 f c 4",
   "1k 8 a 6 14 8 u 2 c 4 2 e 9 13 9k 8 e 2 d 3 b 3 1l 1 1 4 g 2 c 4 a 7 43 1 2v sl wyo w 3dq 2",
   "4ge 2 5rl f ha 1wi f2 15u 3t7 5 6ju f62u 6o 47bk"]

def leftOut : Runs := Runs.ofLines
  ["4t 1 ip 1 2rz 2 18z 2 2d 5 1kr 1 2c 5 5 6 3ck 1 14ez g 6n 1 4g 1 11bz 4 43z 8 h479 6o"]

/-- Characters at a stride that are replaced by characters at the same stride. -/
structure Series where
  first : Nat
  stride : Nat
  count : Nat
  target : Nat

def seriesOf : List Nat → List Series
  | first :: stride :: count :: target :: rest =>
    ⟨first, stride, count, target⟩ :: seriesOf rest
  | _ => []

def seriesTable : List Series := seriesOf (numbers
  ["1t 1 q 2p 4y 1 2 1e 5c 1 n 68 60 1 7 6w 74 2 o 75 8p 2 3 8q 8x 2 4 8y 96 2 n 97 ah 2 3 ai ax",
   "1 2 gm bk 2 3 bl c1 1 2 i2 ct 2 8 cu da 2 9 db e0 2 k e1 f6 2 9 f7 g6 2 5 g7 n4 1 2 lc p4 1",
   "3 q5 pa 1 2 r1 pd 1 h q9 pv 1 9 qr rc 2 c rd sd 1 3 or sg 1 g uo sw 1 w ts v4 2 h v5 wa 2 r",
   "wb xt 2 7 xu y8 2 1c y9 10x 1 12 129 3a8 1 12 8w0 3y0 1 6 3xs 5mr 1 2 u9 5n4 1 17 3bk 5od 1",
   "3 3ct 5rk 1 2 2s 5rn 1 8 2v 5s0 1 2 38 5s4 1 2 gg 5s8 1 2 2s 5sb 1 2 gr 5sk 1 2 5qu 5sn 1 2",
   "38 5st 1 3 qa 5sw 1 2 qu 5t0 1 2 39 5t2 1 2 qa 5t5 1 2 qu 5us 1 3 h4 5v2 1 4 he 5v7 1 2 hu",
   "5va 1 2 i1 5vd 1 2 i3 5vg 1 3 i8 5xc 2 23 5xd 61s 2 1c 61t 64o 1 8 64g 654 1 6 64w 65k 1 8",
   "65c 660 1 8 65s 66g 1 6 668 66x 2 4 66p 67c 1 8 674 69k 1 2 69c 6ag 1 2 6a8 6aw 1 2 6ao 6es",
   "1 6 1g 6f1 1 2 14 6f4 1 a 1c 6fh 1 2 14 6fq 1 4 2z 6fv 1 2 37 6iy 1 2 2v 6jd 1 3 34 6jw 1 2",
   "2q 6k0 1 2 2t 6k5 1 4 15c 6km 1 2 2s 6ko 1 2 2x 6lp 1 2 2r 6m5 1 2 2r 6y1 1 2 9hk 76o 1 9 1d",
   "792 1 q 2p 79s 1 q 2p 8ow 1 1c 8q8 8rr 2 3 8rs 8se 1 2 fz 8sg 2 1e 8sh 9ix 1 2 gg4 9pt 1 2",
   "3cw 9px 1 2 3ho 9pz 1 3 3cz 9q2 1 6 3hs 9q9 1 3 3d2 9qd 1 a 3d5 9qn 1 l 3fl 9r9 1 2 3dg 9rb",
   "1 2 3if 9rl 1 2 3dp 9ro 1 2 3du 9rs 1 5 3e3 9s2 1 2 3jl 9s4 1 3 3fb 9s7 1 2 3gk 9sa 1 2 3gx",
   "9y9 1 2 3cy 9yb 1 3 3d1 9yf 1 2 3d7 9yh 1 5 3da a1g 1 2 9m2 a1w 1 6 9my a26 1 5 9ni a2d 1 6",
   "9ns a2j 1 4 9nz wu8 2 n wu9 ww0 2 e ww1 x0i 2 7 x0j x0y 2 v x0z x32 2 5 x33 x3q 2 a x3r x4k",
   "2 8 x4l x58 2 8 x59 xv4 1 28 3vk 1dg2 1 2 o0d 1dlu 1 2 15f 1dlw 1 3 15n 1dod 1 2 1ae 1dpb 1",
   "2 1bu 1dph 1 2 1c0 1dpr 1 2 1ci 1e6r 1 2 1m 1e6v 1 2 9hy 1e7p 1 2 14 1e7t 1 2 9hw 1e7v 1 2",
   "9hs 1e7x 1 2 9hm 1e7z 1 2 9hk 1e81 1 4 9ho 1e8p 1 2 14 1e8t 1 2 9hw 1e8x 1 2 16 1e95 1 2 10",
   "1e9s 1 2 17l 1e9u 1 2 17m 1e9w 1 2 17n 1e9y 1 2 17o 1ea0 1 2 17p 1ea4 1 2 17q 1ea6 1 2 17r",
   "1eaa 1 2 17s 1eac 1 2 17t 1eag 1 2 17u 1eak 1 2 17v 1eao 1 2 17w 1eas 1 2 17x 1eaw 1 2 17y",
   "1eay 1 2 17z 1eb0 1 2 180 1eb2 1 2 181 1eb4 1 2 182 1eb8 1 2 183 1ebc 1 2 184 1ebg 1 2 185",
   "1ebk 1 2 186 1ebo 1 2 187 1ebs 1 2 188 1ebw 1 2 189 1ec4 1 2 18h 1ec8 1 2 18i 1ecc 1 2 18j",
   "1ecg 1 2 18k 1eck 1 2 18l 1eco 1 2 18m 1ecs 1 2 18n 1ecu 1 2 18o 1ecw 1 2 18p 1edd 1 w x",
   "1ee9 1 q 2p 1eez 1 10 2j 1efz 1 2 879 1eg2 1 2 9ho 1egl 1 2 9m2 1eh1 1 6 9my 1ehb 1 5 9ni",
   "1ehi 1 6 9ns 1ehq 1 2 9ll 1eht 1 2 3cw 1ehx 1 2 3ho 1ehz 1 3 3cz 1ei2 1 6 3hs 1ei9 1 3 3d2",
   "1eid 1 a 3d5 1eiq 1 6 3fl 1eiy 1 6 3fr 1ej6 1 6 3fx 1eje 1 3 3g3 1ejk 1 2 4i 1ejt 1 4 6mo",
   "1fcw 1 14 1fe0 1fhs 1 10 1fiw 1fn4 2 j 1fo7 1fn5 2 5 1fo8 1fnh 2 7 1fok 1fnx 2 3 1fp0 1g1t 1",
   "2 k0 1g23 1 2 gm 1g2h 1 2 iy 1g2r 1 2 hi 1g2w 1 2 hp 1g37 1 2 ip 1g3a 1 3 cg 1h1c 1 1f 1h34",
   "1h74 1 m 1h80 1jfk 1 w 1jgg 20cg 1 w 20dc 20f4 1 p 20fv 2j12 1 q 2p 2j1s 1 a 1c 2kg0 1 q 2p",
   "2kgq 1 q 2p 2khg 1 q 2p 2ki6 2 d 2p 2ki7 2 3 2q 2kif 2 9 2y 2kiw 1 q 2p 2kjm 1 q 2p 2kke 1 2",
   "2r 2kkl 1 2 2y 2kkp 1 4 32 2kku 1 8 37 2kl2 1 4 2p 2kl7 2 b 2u 2kla 2 3 2x 2kli 2 5 35 2kls",
   "1 q 2p 2kmi 1 q 2p 2kn8 1 2 2p 2knb 1 4 2s 2knh 1 8 2y 2knq 1 7 37 2kny 1 q 2p 2koo 1 2 2p",
   "2kor 1 4 2s 2kow 1 5 2x 2kp6 1 7 37 2kpe 1 q 2p 2kq4 1 q 2p 2kqu 1 q 2p 2krk 1 q 2p 2ksa 1 q",
   "2p 2kt0 1 q 2p 2ktq 1 q 2p 2kug 1 q 2p 2kv6 1 q 2p 2kvw 1 q 2p 2kwm 1 q 2p 2kxc 1 q 2p 2ky2",
   "1 q 2p 2kyw 1 h q9 2kze 1 7 qr 2kzm 1 h q9 2l04 1 7 qr 2l0i 1 h q9 2l10 1 7 qr 2l18 1 h q9",
   "2l1q 1 7 qr 2l24 1 h q9 2l2m 1 7 qr 2l2u 1 h q9 2l3c 1 7 qr 2l3q 1 h q9 2l48 1 7 qr 2l4g 1 h",
   "q9 2l4y 1 7 qr 2l5c 1 h q9 2l5u 1 7 qr 2l62 1 h q9 2l6k 1 7 qr 2l72 1 a 1c 2l7c 1 a 1c 2l7m",
   "1 a 1c 2l7w 1 a 1c 2l86 1 a 1c 2muo 1 9 ts 2mux 1 3 u2 2mv0 1 b u6 2mvc 1 2 ul 2mvl 1 9 ts",
   "2mvu 1 2 u2 2mvw 1 2 u6 2mvz 1 6 ub 2mw5 1 2 ui 2olc 1 y 2oma 2pkw 1 2 17r 2pl6 1 4 18j 2plh",
   "1 2 17u 2pm2 1 4 18j 2pmd 1 2 17u 2pnw 1 2 18l 2po5 1 2 17u 2pog 1 2 17r 2pok 1 2 18n 2por 1",
   "3 18k 2pp1 1 2 17u 2ppn 1 3 18k 2ppx 1 2 17u 2q7k 1 q 2p 2sc0 1 a 1c 465l 1 2 ged 4681 1 2",
   "ijl 46b9 1 2 la2 46dh 1 2 nj2 46i0 1 2 t07"])

def pairsOf : List Nat → List (Nat × Nat)
  | a :: b :: rest => (a, b) :: pairsOf rest
  | _ => []

def pairTable : List (Nat × Nat) := pairsOf (numbers
  ["4g w 4q 2p 51 qk 55 1d 56 33 8k 8l 8m 8n ag 73 an 37 ap gj aq ar as at au gk av aw az b0 b2",
   "d9 b3 gp b4 gr b5 b6 b7 gw b8 gz ba h5 bb h4 bc bd bg hb bh he bj hh bq hs br bs bt hv bw bx",
   "by i0 bz c0 c3 c4 c5 c6 c7 ia c8 c9 cc cd dw dx dy b9 dz cf f4 bi fu 8rp fv fw fx be fy 8rq",
   "g1 g2 g3 ao g4 i1 g5 i4 j4 2w j5 h2 j6 2y j7 36 j8 hl j9 hn ja ht jb 3b jc 3d kg gz kh 30 ki",
   "37 kj 3c kk id n7 lv n9 qh og oh oi oj ok jd om on ou 1n ov s3 p2 q4 p3 53 p8 r0 r3 rb r4 qa",
   "r5 qg r6 qt r7 r1 r8 qz r9 qu ra qo s0 qi s1 qp s2 qr s4 qg s5 qd s7 s8 s9 qr sa sb xs y7",
   "2z0 2yz 3bb 8x3 3bh 8x9 3cs 3bw 5mo tu 5mp tw 5mq u6 5mt ua 5mu ui 5mv v7 5mw wuj 5mx 5my",
   "5rg 2p 5rh 6e 5ri 2q 5rm d9 5rw 33 5rx f7 5ry 34 5rz 36 5s2 3b 5s3 2p 5s6 5qa 5s7 2q 5sa gp",
   "5sd 2v 5sf 2z 5sg 31 5sh 97 5si 33 5sj gk 5sm 34 5sp 5r1 5sq hb 5sr 3a 5ss 5r9 5sy 2x 5sz 36",
   "5t4 qp 5tk u5 5uj gi 5uk 2r 5ul gl 5um 6o 5un gs 5uo 2u 5up gv 5uq gx 5ur h1 5uv 5tn 5uw il",
   "5ux h9 5uy 5tx 5uz in 5v0 hd 5v1 hc 5v6 hk 5v9 bv 5vc 5r0 5vf 3e 5vj qg 61n 601 61q 67 67l",
   "q4 67n q5 67p q6 67r q7 67t r0 67v r1 67x r2 69m 67k 69n q4 69q qh 6a0 67m 6a1 q5 6a2 67o",
   "6a3 q6 6ab pc 6ai 67q 6aj q7 6ar q8 6ay 67u 6az r1 6b0 6at 6b3 2o 6bc 67s 6bd r0 6be 67w 6bf",
   "r2 6bk w 6bl w 6bm w 6bn w 6bo w 6bp w 6bq w 6br w 6bs w 6bt w 6bu w 6c1 6c0 6cv w 6e7 w 6eo",
   "1c 6ep 2x 6ey 17 6ez 6qa 6f0 1p 6f3 32 6fe 17 6ff 6qa 6fg 1p 6fk 2p 6fl 2t 6fm 33 6fn 3c 6fo",
   "gp 6fp 2w 6fu 34 6iq 2r 6iv gr 6j0 2w 6j1 2w 6j2 2w 6j3 87 6j4 2x 6j5 2x 6j6 30 6j7 30 6j9",
   "32 6jg 36 6jh 36 6jo 3e 6jq qx 6js 3e 6ju 2z 6jv 6d 6jz 2t 6k2 6ku 6k3 31 6k4 33 6k9 2x 6kc",
   "qo 6kd qb 6ke qb 6kf qo 6kg 6q9 6kl 2s 6lc 2x 6lg 3a 6ll 3c 6lo 30 6lr 31 6ls 2x 6lw 3a 6m1",
   "3c 6m4 30 6m7 31 6mb 6mc 7ai 1c 8rk 8rl 8rm h7 8rn 5tp 8ro hp 8rx gh 8ry hd 8rz gg 8s0 gi",
   "8s2 8s3 8s5 8s6 8sc 2y 8sd 3a 8vf 8vg 8vh 8vi 8vm 8vn 8z3 8yp 97j lal 99v vj3 9a8 feo 9a9",
   "ffs 9aa fg6 9ab fgf 9ac fh5 9ad fid 9ae fik 9af fj4 9ag fju 9ah g1r 9ai g2t 9aj g2z 9ak g3m",
   "9al g46 9am g4r 9an g68 9ao g6t 9ap g74 9aq gbf 9ar ge1 9as get 9at gey 9au gfs 9av gg1 9aw",
   "ggs 9ax gh5 9ay ghu 9az gja 9b0 gjs 9b1 gkj 9b2 h5j 9b3 h7j 9b4 hkb 9b5 hky 9b6 hl6 9b7 hlh",
   "9b8 hlz 9b9 ho3 9ba i1c 9bb i2o 9bc i60 9bd i6n 9be i76 9bf i7s 9bg i9a 9bh i9d 9bi ijf 9bj",
   "ijp 9bk ik1 9bl ike 9bm inm 9bn inu 9bo inz 9bp ir8 9bq iri 9br irv 9bs is3 9bt its 9bu iu9",
   "9bv iur 9bw iwz 9bx jd4 9by jee 9bz jez 9c0 jzj 9c1 jzo 9c2 k1z 9c3 k2f 9c4 k2s 9c5 k3d 9c6",
   "k4g 9c7 k4l 9c8 kc0 9c9 kco 9ca kdk 9cb l5s 9cc l7m 9cd l89 9ce l9v 9cf laj 9cg las 9ch laz",
   "9ci lcf 9cj lck 9ck ldg 9cl m7f 9cm mju 9cn mk6 9co mkb 9cp mkf 9cq mkn 9cr ml5 9cs ml7 9ct",
   "mng 9cu mtg 9cv mtl 9cw n30 9cx n3a 9cy n4o 9cz n4v 9d0 n54 9d1 n5c 9d2 n7v 9d3 n82 9d4 nee",
   "9d5 nel 9d6 nfy 9d7 ngf 9d8 nhq 9d9 nob 9da noi 9db noz 9dc ny2 9dd o1k 9de o1q 9df o6s 9dg",
   "o97 9dh oah 9di okz 9dj ooo 9dk p4m 9dl p5d 9dm p6y 9dn p8d 9do pa9 9dp pak 9dq paq 9dr pbn",
   "9ds pdr 9dt pe1 9du pnn 9dv pnu 9dw po3 9dx poc 9dy pos 9dz pp7 9e0 ppb 9e1 pri 9e2 prm 9e3",
   "prs 9e4 qj1 9e5 qjv 9e6 qww 9e7 qx8 9e8 qxv 9e9 r5q 9ea r63 9eb r82 9ec r9c 9ed rp3 9ee rpi",
   "9ef rpx 9eg rqw 9eh rrx 9ei rxg 9ej rxs 9ek rzn 9el s6j 9em s7e 9en sd7 9eo sds 9ep sdx 9eq",
   "sk1 9er sp5 9es ssm 9et sss 9eu ssx 9ev tiv 9ew tj4 9ex tng 9ey trq 9ez trt 9f0 tt4 9f1 tw1",
   "9f2 twe 9f3 twi 9f4 twp 9f5 tzf 9f6 u0d 9f7 u0j 9f8 u0x 9f9 u5k 9fa u6z 9fb u73 9fc uc6 9fd",
   "uc9 9fe ucs 9ff ujs 9fg ul4 9fh ulb 9fi un9 9fj unj 9fk unm 9fl unw 9fm uoq 9fn uzp 9fo vat",
   "9fp vb3 9fq vc5 9fr vcr 9fs vcz 9ft vd9 9fu vdd 9fv veh 9fw vel 9fx vf2 9fy vf7 9fz vfk 9g0",
   "vgb 9g1 vgq 9g2 vgy 9g3 vil 9g4 vj0 9g5 vj4 9hc w 9he 1a 9iu 9hu 9iw gg1 9pv 3hm 9pw 3cy 9q8",
   "3dm 9qc 3dt 9rd 3ik 9re 3im 9rf 3ir 9rg 3iv 9rh 3ix 9ri 3do 9rj 3j1 9rk 3j3 9rn 3ds 9rq 3dz",
   "9rr 3e1 9rx 3ea 9ry 3ee 9rz 3eo 9s0 3ev 9s1 3f0 9s9 3go 9sc 3h0 9sd 3ha 9se 3hd 9si feo 9sj",
   "fik 9sk fex 9sl h5n 9sm fey 9sn ffx 9so fez 9sp n5e 9sq fh5 9sr ffd 9ss fep 9st hm1 9su h80",
   "9sv fju 9xg gun 9xh inw 9xi k1z 9xj oen 9y8 3cw 9ye 3d5 9ym xz4 9yn yvs 9yo zc4 9yp 108s 9yq",
   "10p4 9yr 115g 9ys 1224 9yt 12ys 9yu 13f4 9yv 14bs 9yw 14s4 9yx 158g 9yy 15os 9yz 1654 9z2",
   "138w 9z4 feo 9z5 fik 9z6 fex 9z7 h5n 9z8 fis 9z9 g31 9za fer 9zb g2z 9zc fh9 9zd gg1 9ze kco",
   "9zf m7f 9zg ldg 9zh kdk 9zi ssx 9zj h7j 9zk k4l 9zl kkq 9zm kcp 9zn ny6 9zo glp 9zp mm1 9zq",
   "rs1 9zr nz1 9zs gc4 9zt o2g 9zu n5j 9zv ho3 9zw six 9zx g16 9zy ghc 9zz lig a00 u11 a01 fm9",
   "a02 g49 a03 l7n a04 fey a05 ffx a06 fez a07 ijq a08 gkz a09 gfv a0a i3b a0b i1y a0c nhf a0d",
   "flt a0e rt3 a0f ggk a0g hlo a1c 9lu a1d 9lw a1e 9ly a1f 9m0 a1i 9m5 a1j 9m7 a1k 9m9 a1l 9mb",
   "a1m 9md a1n 9mf a1o 9mh a1p 9mj a1q 9ml a1r 9mn a1s 9mp a1t 9ms a1u 9mu a1v 9mw a22 9n6 a23",
   "9n9 a24 9nc a25 9nf a2b 9no a2c 9nq wws ui wwt uk x2o x2n x2x x2y x2z x30 x31 5tl x3f x3g",
   "x3h h1 x3k x3l x3m x3n x4a h2 x4b gs x4c gx x4d h8 x4e h6 x4g im x4h hz x4i il x4j xub x50",
   "x3o x51 hu x52 5u6 x53 x54 x55 x56 x57 h0 x5o bf x69 37 x6a 2r x6b 2u x6c 35 x6d x6e x6g 87",
   "x6h 9f xuk x0n xul xtj xum h7 xun xua xux i5 1d6o rpk 1d6p kc4 1d6q s7e 1d6r rt4 1d6s lw1",
   "1d6t fg2 1d6u gkl 1d6v vj0 1d6w vj0 1d6x hn5 1d6y ssx 1d6z gw7 1d70 hmw 1d71 jcm 1d72 ne1",
   "1d73 p6t 1d74 qin 1d75 qt6 1d76 r20 1d77 sjz 1d78 kxu 1d79 ljv 1d7a mah 1d7b mvy 1d7c q4d",
   "1d7d sq2 1d7e uep 1d7f fia 1d7g ghh 1d7h l50 1d7i mjf 1d7j qi5 1d7k v8e 1d7l ifk 1d7m m3v",
   "1d7n qfh 1d7o r50 1d7p jih 1d7q pnc 1d7r qvz 1d7s iq2 1d7t kd3 1d7u lm2 1d7v mpo 1d7w slq",
   "1d7x fpi 1d7y g53 1d7z gda 1d80 jwk 1d81 l3n 1d82 mj4 1d83 nhj 1d84 pa9 1d85 qh2 1d86 qjg",
   "1d87 s1b 1d88 tv6 1d89 upb 1d8a v7e 1d8b nt8 1d8c nzz 1d8d otc 1d8e q15 1d8f t1g 1d8g vb3",
   "1d8h rfa 1d8i hjz 1d8j iro 1d8k okg 1d8l pdq 1d8m mle 1d8n nuy 1d8o rsy 1d8p ttj 1d8q hjs",
   "1d8r i8y 1d8s kyb 1d8t lp6 1d8u lxr 1d8v oq7 1d8w oxj 1d8x tor 1d8y gcy 1d8z pe3 1d90 g64",
   "1d91 g5o 1d92 o4c 1d93 ou6 1d94 q29 1d95 tpx 1d96 rk0 1d97 jin 1d98 kxu 1d99 rge 1d9a fg9",
   "1d9b i5j 1d9c iz6 1d9d mtj 1d9e n74 1d9f gev 1d9g nwb 1d9h fr3 1d9i iw9 1d9j ff1 1d9k lho",
   "1d9l k1k 1d9m opu 1d9n gjn 1d9o hge 1d9p ni9 1d9q q4p 1d9r re2 1d9s la2 1d9t sds 1d9u lfs",
   "1d9v jjy 1d9w put 1d9x jog 1d9y n6t 1d9z fji 1da0 g2x 1da1 g5l 1da2 kn5 1da3 oo7 1da4 prj",
   "1da5 rf6 1da6 ssv 1da7 gdx 1da8 gn6 1da9 ho3 1daa ir0 1dab k3p 1dac m4e 1dad nxm 1dae tkd",
   "1daf ui2 1dag vbr 1dah vda 1dai gbf 1daj kau 1dak l87 1dal sbm 1dam ino 1dan j9s 1dao jcw",
   "1dap jve 1daq lyb 1dar mdl 1das n0p 1dat o22 1dau ovo 1dav pdb 1daw s9y 1dax q9a 1day sgz",
   "1daz t3e 1db0 g7r 1db1 gbn 1db2 gql 1db3 ma0 1db4 r0i 1db5 re2 1db6 iq1 1db7 iyd 1db8 jnf",
   "1db9 l9q 1dba oji 1dbb mt1 1dbc fl0 1dbd h6h 1dbe i5j 1dbf iii 1dbg izg 1dbh muq 1dbi mzt",
   "1dbj p7e 1dbk pc6 1dbl svo 1dbm tti 1dbn tvs 1dbo u1k 1dbp fpn 1dbq o1a 1dbr ss4 1dbs trs",
   "1dbt j4x 1dbu fie 1dbv fyy 1dbw i5q 1dbx i7z 1dby k2h 1dbz kxu 1dc0 mha 1dc1 ncy 1dc2 q9o",
   "1dc3 sjg 1dc4 vil 1dc5 k94 1dc6 tny 1dc7 gax 1dc8 kfv 1dc9 kj7 1dca lkx 1dcb luk 1dcc mx5",
   "1dcd n6h 1dce nsb 1dcf opc 1dcg u3i 1dch g31 1dci je6 1dcj tq0 1dck fu3 1dcl ie1 1dcm lpm",
   "1dcn sa2 1dco ivf 1dcp j7o 1dcq kk7 1dcr mtj 1dcs tqe 1dct g89 1dcu glr 1dcv i91 1dcw k5v",
   "1dcx kem 1dcy ko8 1dcz lid 1dd0 mx2 1dd1 naa 1dd2 p6h 1dd3 r0v 1dd4 r1d 1dd5 sss 1dd6 tsy",
   "1dd7 gfz 1dd8 lve 1dd9 gm5 1dda mhc 1ddb n14 1ddc qgq 1ddd tr7 1dde uvr 1ddf vbz 1ddg kgn",
   "1ddh lor 1ddi pns 1ddj o97 1ddk obk 1ddl olu 1ddm mo0 1ddn m8p 1ddo riw 1ddp fk0 1ddq px2",
   "1ddr g8q 1dds g7b 1ddt ip2 1ddu jir 1ddv onq 1ddw i2t 1ddx ljy 1ddy kac 1ddz saj 1de0 qx8",
   "1de1 tot 1de2 r63 1de3 iqb 1de4 g1s 1de5 gxs 1de8 hga 1dea k8k 1ded g66 1dee mqy 1def ngq",
   "1deg ny4 1deh nz2 1dei nz9 1dej o0f 1dek tw6 1del on2 1dem p8d 1deo qhe 1deq rg8 1det shk",
   "1deu sn1 1dey u7j 1dez u7w 1df0 u94 1df1 v5g 1df2 sm6 1df3 trr 1df4 fqm 1df5 fzb 1df6 g25",
   "1df7 gcp 1df8 gdg 1df9 ggh 1dfa gwt 1dfb gzq 1dfc h2g 1dfd hfk 1dfe hig 1dff i90 1dfg i9a",
   "1dfh j2s 1dfi j8o 1dfj j9q 1dfk jci 1dfl k0f 1dfm k4i 1dfn k9d 1dfo kn9 1dfp lmf 1dfq lqy",
   "1dfr lya 1dfs mem 1dft mjv 1dfu mxu 1dfv ntd 1dfw ny6 1dfx nyh 1dfy nyg 1dfz nyo 1dg0 nyu",
   "1dg1 nz1 1dg4 o5c 1dg5 o75 1dg6 og0 1dg7 ovo 1dg8 ow9 1dg9 oxt 1dga p6a 1dgb pad 1dgc pnx",
   "1dgd prt 1dge prt 1dgf q53 1dgg r2o 1dgh r6e 1dgi rgh 1dgj ri1 1dgk rtf 1dgl ruw 1dgm sdy",
   "1dgn shk 1dgo tsz 1dgp u0v 1dgq u2j 1dgr j1x 1dgs 36cu 1dgt pp4 1dgw ffq 1dgx g51 1dgy g2w",
   "1dgz fpc 1dh0 g1x 1dh1 g3k 1dh2 gcn 1dh3 ge2 1dh4 gwt 1dh5 gut 1dh6 gwp 1dh7 gyq 1dh8 hga",
   "1dh9 hir 1dha hms 1dhb hn8 1dhc huq 1dhd i08 1dhe iqa 1dhf iqh 1dhg iuh 1dhh iwd 1dhi j4o",
   "1dhj j7y 1dhk j60 1dhl j9q 1dhm j8g 1dhn jci 1dho jec 1dhp jpg 1dhq jrw 1dhr jte 1dhs k0m",
   "1dht k8k 1dhu kd3 1dhv kd7 1dhw keu 1dhx l89 1dhy la2 1dhz lkx 1di0 lwb 1di1 lvv 1di2 lya",
   "1di3 m5a 1di4 mem 1di5 nmv 1di6 mk5 1di7 mnj 1di8 mqy 1di9 n01 1dia n46 1dib n5n 1dic nbx",
   "1did nbz 1die ngq 1dif nh7 1dig nhw 1dih nka 1dii nk0 1dij nv0 1dik o8h 1dil og0 1dim ol7",
   "1din orf 1dio ovo 1dip p4u 1diq pad 1dir pxu 1dis q27 1dit qrd 1diu r41 1div r5y 1diw r6e",
   "1dix ren 1diy rg8 1diz rez 1dj0 rgh 1dj1 rge 1dj2 rfx 1dj3 ri1 1dj4 rka 1dj5 ruw 1dj6 sag",
   "1dj7 sj6 1dj8 srd 1dj9 sxi 1dja tq4 1djb tsz 1djc tw6 1djd tzv 1dje u0v 1djf u17 1djg u2j",
   "1djh umq 1dji vj0 1djj 313e 1djk 3138 1djl 33dh 1djm brx 1djn cns 1djo cop 1djp 39e1 1djq",
   "3bgw 1djr 3i6r 1djs vgj 1djt vim 1dls 15u 1dlt 15c 1dlz 160 1dm0 162 1dm1 17 1dn4 19t 1dn5",
   "19t 1dn6 1a3 1dn7 1a3 1dn8 1a3 1dn9 1a3 1dna 1a6 1dnb 1a6 1dnc 1a6 1dnd 1a6 1dne 1a8 1dnf",
   "1a8 1dng 1a8 1dnh 1a8 1dni 1a2 1dnj 1a2 1dnk 1a2 1dnl 1a2 1dnm 1a7 1dnn 1a7 1dno 1a7 1dnp",
   "1a7 1dnq 1a1 1dnr 1a1 1dns 1a1 1dnt 1a1 1dnu 1b8 1dnv 1b8 1dnw 1b8 1dnx 1b8 1dny 1ba 1dnz",
   "1ba 1do0 1ba 1do1 1ba 1do2 1ac 1do3 1ac 1do4 1ac 1do5 1ac 1do6 1ab 1do7 1ab 1do8 1ab 1do9",
   "1ab 1doa 1ae 1dob 1ae 1doc 1ae 1dof 1af 1dog 1af 1doh 1af 1doi 1al 1doj 1al 1dok 1ak 1dol",
   "1ak 1dom 1am 1don 1am 1doo 1ag 1dop 1ag 1doq 1aw 1dor 1aw 1dos 1ap 1dot 1ap 1dou 1bd 1dov",
   "1bd 1dow 1bd 1dox 1bd 1doy 1bj 1doz 1bj 1dp0 1bj 1dp1 1bj 1dp2 1bn 1dp3 1bn 1dp4 1bn 1dp5",
   "1bn 1dp6 1bl 1dp7 1bl 1dp8 1bl 1dp9 1bl 1dpa 1bu 1dpd 1bv 1dpe 1bv 1dpf 1bv 1dpg 1c0 1dpj",
   "1c1 1dpk 1c1 1dpl 1c1 1dpm 1by 1dpn 1by 1dpo 1by 1dpp 1by 1dpq 1ci 1dpt 1cj 1dqr 1bh 1dqs",
   "1bh 1dqt 1bh 1dqu 1bh 1dqv 1c7 1dqw 1c7 1dqx 1c6 1dqy 1c6 1dqz 1c8 1dr0 1c8 1dr2 1cb 1dr3",
   "1cb 1dr4 1c5 1dr5 1c5 1dr6 1c9 1dr7 1c9 1dr8 1cg 1dr9 1cg 1dra 1cg 1drb 1cg 1drc 18p 1drd",
   "18p 1drw 1cc 1drx 1cc 1dry 1cc 1drz 1cc 1e6o 18 1e6p 9hd 1e6t x 1e6u 1r 1e7l 6c4 1e7m 6c3",
   "1e7n 2n 1e7o 2n 1e7r 3f 1e7s 3h 1e87 2j 1e88 2l 1e8d 2n 1e8e 2n 1e8f 2n 1e8g 18 1e8h 9hd",
   "1e8k 1n 1e8l 1m 1e8m 1r 1e8n x 1e8o 6c4 1e8r 3f 1e8s 3h 1e8v z 1e8w 12 1e8z 19 1e90 1o 1e91",
   "1q 1e92 1p 1e94 2k 1e97 1s 1ea2 17q 1ea3 17q 1ea8 17s 1ea9 17s 1eae 17u 1eaf 17u 1eai 17v",
   "1eaj 17v 1eam 17w 1ean 17w 1eaq 17x 1ear 17x 1eau 17y 1eav 17y 1eb6 183 1eb7 183 1eba 184",
   "1ebb 184 1ebe 185 1ebf 185 1ebi 186 1ebj 186 1ebm 187 1ebn 187 1ebq 188 1ebr 188 1ebu 189",
   "1ebv 189 1eby 18a 1ebz 18a 1ec0 18a 1ec1 18h 1ec2 18h 1ec3 18h 1ec6 18i 1ec7 18i 1eca 18j",
   "1ecb 18j 1ece 18k 1ecf 18k 1eci 18l 1ecj 18l 1ecm 18m 1ecn 18m 1ecq 18n 1ecr 18n 1ecy 18q",
   "1ecz 18q 1ed0 18q 1eg1 1a 1eg4 9hd 1eg5 9ob 1eg6 9o2 1eg7 9lt 1eg8 9lv 1eg9 9lx 1ega 9lz",
   "1egb 9m1 1egc 9nn 1egd 9np 1ege 9nr 1egf 9mr 1egg 9oc 1egh 9lu 1egi 9lw 1egj 9ly 1egk 9m0",
   "1egn 9m5 1ego 9m7 1egp 9m9 1egq 9mb 1egr 9md 1egs 9mf 1egt 9mh 1egu 9mj 1egv 9ml 1egw 9mn",
   "1egx 9mp 1egy 9ms 1egz 9mu 1eh0 9mw 1eh7 9n6 1eh8 9n9 1eh9 9nc 1eha 9nf 1ehg 9no 1ehh 9nq",
   "1eho 9nz 1ehp 9o3 1ehv 3hm 1ehw 3cy 1ei8 3dm 1eic 3dt 1ejm 4s 1ejo 4m 1ejp 4l 1ejq 6g9 1ejs",
   "7b6 1ejx 7fk 1ejy 7gr 1fo5 1fp8 1g1v 6e 1g1w ih 1g1x gj 1g1z ir 1g20 xuu 1g21 it 1g22 is",
   "1g25 5u9 1g26 go 1g27 gu 1g28 ix 1g29 h0 1g2a gy 1g2b gw 1g2c ij 1g2d 87 1g2e ik 1g2f h3",
   "1g2g hw 1g2j h8 1g2k 2mmc 1g2l x3i 1g2m ha 1g2n 2mmd 1g2o i6 1g2p 2mme 1g2q 6w 1g2t 35 1g2u",
   "hm 1g2v 2mmg 1g2y hs 1g2z iw 1g30 iu 1g31 xuv 1g32 iv 1g33 i0 1g34 8s1 1g36 i7 1g39 ig 1g3d",
   "2mmi 1g3e 2mn2 2kkc 2p 2kki 2v 2kp2 33 2kys 8h 2kyt fr 2kzd qg 2kzl 6pz 2l03 qr 2l0b 6pu",
   "2l0c qd 2l0d qg 2l0e qi 2l0f qu 2l0g qp 2l0h qo 2l0z qg 2l17 6pz 2l1p qr 2l1x 6pu 2l1y qd",
   "2l1z qg 2l20 qi 2l21 qu 2l22 qp 2l23 qo 2l2l qg 2l2t 6pz 2l3b qr 2l3j 6pu 2l3k qd 2l3l qg",
   "2l3m qi 2l3n qu 2l3o qp 2l3p qo 2l47 qg 2l4f 6pz 2l4x qr 2l55 6pu 2l56 qd 2l57 qg 2l58 qi",
   "2l59 qu 2l5a qp 2l5b qo 2l5t qg 2l61 6pz 2l6j qr 2l6r 6pu 2l6s qd 2l6t qg 2l6u qi 2l6v qu",
   "2l6w qp 2l6x qo 2l6y rh 2l6z rh 2mvb uj 2mve ww9 2mvf yh 2mvg uu 2mvh uw 2mvi yx 2mvj xb",
   "2mvk y7 2mvy u9 2mw7 wh 2mw8 uu 2mw9 ut 2mwa v3 2mwb x7 2mwc wup 2mwd xd 2pky 17w 2pkz 17z",
   "2pl1 18o 2pl2 182 2pl3 17x 2pl4 187 2pl5 18q 2pla 183 2plb 189 2plc 18h 2pld 185 2ple 18i",
   "2plf 181 2plg 184 2plj 17y 2plk 180 2pll 186 2plm 188 2pln 18a 2plo 19q 2plp 1bu 2plq 1b5",
   "2plr 19r 2plt 17s 2plu 17w 2plw 18n 2plz 17x 2pm1 18q 2pm6 183 2pm7 189 2pm8 18h 2pm9 185",
   "2pma 18i 2pmc 184 2pmf 17y 2pmh 186 2pmj 18a 2pmq 17w 2pmv 17x 2pmx 18q 2pmz 18k 2pn1 18m",
   "2pn2 183 2pn3 189 2pn5 185 2pn6 18i 2pn8 184 2pnb 17y 2pnd 186 2pnf 18a 2pnh 1bu 2pnj 19r",
   "2pnl 17s 2pnm 17w 2pno 18n 2pnr 17x 2pns 187 2pnt 18q 2pnu 18j 2pny 183 2pnz 189 2po0 18h",
   "2po1 185 2po2 18i 2po4 184 2po7 17y 2po9 186 2poa 188 2pob 18a 2poc 19q 2poe 1b5 2poi 17w",
   "2poj 17z 2pom 182 2pon 17x 2poo 187 2pop 18q 2pou 183 2pov 189 2pow 18h 2pox 185 2poy 18i",
   "2poz 181 2pp0 184 2pp3 17y 2pp4 180 2pp5 186 2pp6 188 2pp7 18a 2ppd 17s 2ppe 17w 2ppf 17z",
   "2pph 18o 2ppi 182 2ppj 17x 2ppk 187 2ppl 18q 2ppq 183 2ppr 189 2pps 18h 2ppt 185 2ppu 18i",
   "2ppv 181 2ppw 184 2ppz 17y 2pq0 180 2pq1 186 2pq2 188 2pq3 18a 2q7f 2r 2q7g 36 2qde 9md 2qds",
   "jez 2qdt i1j 2qdu gjw 2qdv 9mv 2qdw fik 2qdx hlm 2qdy r8j 2qdz hm1 2qe0 fj8 2qe1 k68 2qe2",
   "mch 2qe3 k2h 2qe4 g99 2qe5 ivg 2qe6 g3x 2qe7 k34 2qe8 g7x 2qe9 oqq 2qea n4v 2qeb rs9 2qec",
   "hkg 2qed gmx 2qee lxw 2qef jh1 2qeg jmd 2qeh feo 2qei fex 2qej si2 2qek ijq 2qel ffx 2qem",
   "gkz 2qen jk7 2qeo rxs 2qep jf7 2qeq o01 2qer o6y 2qes glk 2qet lts 2qeu kcp 2qev kco 2qew",
   "n5f 2qex gaa 2qey gxi 2qez sp9 2qfk ivr 2qfl gkv 464g fgd 464h fg8 464i fgh 464j 2tcy 464k",
   "fog 464l fqm 464m fqz 464n fsy 464o fwa 464p fx5 464q fzb 464r fyn 464s ae6 464t 2ud6 464u",
   "g25 464v g2c 464w g2s 464x g3b 464y 2u58 464z aex 4650 g2v 4651 g3x 4652 2u6j 4653 g47 4654",
   "g4k 4655 fkc 4656 g4s 4657 g51 4658 3ly7 4659 g6t 465a g77 465b afz 465c g8r 465d g92 465e",
   "gaa 465f gaf 465g ahh 465h gcn 465i gcp 465j gdg 465k ge2 465n gev 465o gg9 465p ggh 465q",
   "ggq 465r ghf 465s ghp 465t ghr 465u ghr 465v ghr 465w 2v58 465x m7k 465y gju 465z gkf 4660",
   "2vdv 4661 gkr 4662 gkx 4663 gli 4664 gpq 4665 gmw 4666 gnc 4667 go8 4668 gpu 4669 gs6 466a",
   "gsw 466b gur 466c gv7 466d gw4 466e gw4 466f gwp 466g gx7 466h gxf 466i gxu 466j h7a 466k",
   "gzq 466l h7b 466m h1t 466n h2s 466o g7b 466p hke 466q hce 466r hdg 466s he5 466t haj 466u",
   "hf6 466v hf5 466w hik 466x 2x9g 466y hki 466z hkn 4670 hl2 4671 hlm 4672 hlu 4673 hnm 4674",
   "2xm0 4675 2xnu 4676 hrg 4677 hsr 4678 ht3 4679 hqw 467a huu 467b aum 467c av0 467d hzc 467e",
   "i0u 467f i0u 467g 2y88 467h i4j 467i i54 467j i5j 467k i5v 467l 2yhk 467m i67 467n i6e 467o",
   "itv 467p i76 467q ayp 467r i8w 467s i9a 467t ibk 467u ia5 467v 2z1g 467w if7 467x 2z1i 467y",
   "ige 467z igb 4680 igs 4683 b3j 4684 ikd 4685 ilk 4686 im5 4687 ind 4688 b4y 4689 2zr7 468a",
   "b5o 468b ipc 468c ipf 468d ipi 468e iq2 468f 3pg2 468g iri 468h 3035 468i 3035 468j poh 468k",
   "isi 468l isi 468m b7r 468n 335k 468o 3cgq 468p iua 468q iuj 468r b8j 468s ivu 468t ix9 468u",
   "ixj 468v iyh 468w j29 468x bay 468y ba4 468z j2s 4690 30t0 4691 j47 4692 j7s 4693 j7w 4694",
   "j7y 4695 j7w 4696 j96 4697 j9q 4698 jaq 4699 jac 469a jan 469b jby 469c jci 469d jcm 469e",
   "jdc 469f jdn 469g jfh 469h jht 469i jis 469j jm8 469k 31n0 469l jlp 469m jjw 469n jmw 469o",
   "jnn 469p jqc 469q 31td 469r js2 469s jph 469t jop 469u bhq 469v ju1 469w jum 469x jvh 469y",
   "juf 469z bjg 46a0 k0f 46a1 k18 46a2 32mi 46a3 k4j 46a4 kc8 46a5 k7d 46a6 bo9 46a7 k9d 46a8",
   "bns 46a9 bms 46aa g42 46ab g45 46ac kcg 46ad k9o 46ae pf1 46af deh 46ag kd3 46ah kd7 46ai",
   "kdd 46aj kf2 46ak ker 46al 33cz 46am bpl 46an kje 46ao kg5 46ap klu 46aq kn9 46ar 33hp 46as",
   "kni 46at kkf 46au kr8 46av brx 46aw ksi 46ax kv7 46ay kx6 46az l2g 46b0 33xf 46b1 l3v 46b2",
   "bvc 46b3 l5t 46b4 34br 46b5 l78 46b6 bwu 46b7 l82 46b8 l9b 46bb 34p9 46bc 2yvf 46bd 34sa",
   "46be le6 46bf 354s 46bg lhb 46bh lhp 46bi lev 46bj ljq 46bk lku 46bl lmf 46bm lkx 46bn lm1",
   "46bo lmg 46bp lmt 46bq 357i 46br lkk 46bs lrj 46bt lta 46bu c37 46bv lvv 46bw lvr 46bx 35jl",
   "46by lq1 46bz m0e 46c0 35ni 46c1 35ou 46c2 m2u 46c3 m61 46c4 m5a 46c5 m57 46c6 c5y 46c7 m6i",
   "46c8 m7x 46c9 m7r 46ca m99 46cb 2u5h 46cc mdh 46cd 368z 46ce mfw 46cf 36i3 46cg mjs 46ch mk5",
   "46ci mkw 46cj 36yw 46ck mm8 46cl mmt 46cm 3779 46cn 37dg 46co mt6 46cp mtn 46cq cdo 46cr mud",
   "46cs ce0 46ct ce0 46cu myv 46cv mzg 46cw n01 46cx n0l 46cy n2i 46cz cgr 46d0 n50 46d1 386u",
   "46d2 n5q 46d3 389e 46d4 n74 46d5 2zrz 46d6 nbk 46d7 38v5 46d8 38vs 46d9 38zo 46da cn0 46db",
   "cnc 46dc nhw 46dd 394j 46de 394i 46df 395l 46dg 396b 46dj nj3 46dk nka 46dl cop 46dm nm3",
   "46dn cp2 46do cra 46dp 39r1 46dq nri 46dr nt8 46ds nv0 46dt ctf 46du 3a5i 46dv nyu 46dw 3a8q",
   "46dx 3a9x 46dy o0f 46dz o2z 46e0 cvj 46e1 o5c 46e2 o5m 46e3 o5r 46e4 3at8 46e5 3b1j 46e6",
   "3b1j 46e7 oa6 46e8 d1e 46e9 3b8r 46ea og6 46eb og9 46ec d2f 46ed 3beo 46ee onm 46ef d5s 46eg",
   "oo8 46eh oo3 46ei oow 46ej 3c06 46ek orn 46el d8h 46em ouf 46en ow2 46eo oxx 46ep d9w 46eq",
   "3ciw 46er 3cjr 46es dax 46et 3cnt 46eu p6i 46ev 3cqm 46ew p79 46ex pa2 46ey pad 46ez 3d22",
   "46f0 3d43 46f1 pcw 46f2 3d7s 46f3 pdc 46f4 33a7 46f5 ded 46f6 pf6 46f7 phf 46f8 dfv 46f9 pj2",
   "46fa hx1 46fb 3dlz 46fc 3dmd 46fd 33bn 46fe 33bw 46ff poh 46fg pok 46fh sda 46fi dij 46fj",
   "psh 46fk psb 46fl pst 46fm gc3 46fn ptd 46fo ptf 46fp ptp 46fq puu 46fr 3ebg 46fs put 46ft",
   "pwd 46fu pyb 46fv q0d 46fw pwj 46fx q0t 46fy q1z 46fz q53 46g0 pxv 46g1 q16 46g2 q18 46g3",
   "q1o 46g4 3eie 46g5 3eqz 46g6 3emt 46g7 dnv 46g8 q9d 46g9 q9f 46ga qae 46gb 3g0a 46gc qck",
   "46gd 3f3g 46ge dp9 46gf dpd 46gg 3f75 46gh 3ff6 46gi dpn 46gj qj4 46gk qjg 46gl qjr 46gm qjt",
   "46gn qll 46go qko 46gp qoe 46gq qn6 46gr qrd 46gs qp4 46gt qqz 46gu qrq 46gv dsn 46gw qu9",
   "46gx qv5 46gy dtl 46gz qxs 46h0 qxv 46h1 3giv 46h2 r13 46h3 r1a 46h4 dv9 46h5 r22 46h6 aez",
   "46h7 3gz2 46h8 3h46 46h9 dz2 46ha dzb 46hb rds 46hc rfx 46hd rka 46he rpx 46hf 3hrc 46hg rsb",
   "46hh rsx 46hi rvf 46hj rxz 46hk 3i9b 46hl 2upw 46hm s0b 46hn rzw 46ho s1c 46hp 2uvy 46hq s7o",
   "46hr sag 46hs 3jki 46ht 3jl9 46hu sk4 46hv smp 46hw snl 46hx 3ju6 46hy snv 46hz svs 46i2 sxo",
   "46i3 t89 46i4 t91 46i5 3ksa 46i6 tjf 46i7 ej9 46i8 tkn 46i9 3l2v 46ia eli 46ib ts3 46ic iia",
   "46id tur 46ie 3ltx 46if 3lzu 46ig epa 46ih epi 46ii u00 46ij 3mdm 46ik er6 46il 3mhi 46im",
   "u17 46in u17 46io u21 46ip 3mpi 46iq u76 46ir eur 46is u95 46it ucn 46iu ude 46iv uf2 46iw",
   "ez2 46ix 3nsg 46iy umq 46iz uv4 46j0 v0d 46j1 f66 46j2 f71 46j3 v3b 46j4 3owe 46j5 f7c 46j6",
   "3oxx 46j7 3p5a 46j8 3p8x 46j9 vcr 46ja f9y 46jb veh 46jc vem 46jd vet 46je vf3 46jf vfa 46jg",
   "vgb 46jh 3pxc"])

/-- The characters with their replacements in a list of numbers; `fuel` bounds their number. -/
def replacementsOf (fuel : Nat) (ns : List Nat) : List (Nat × List Nat) :=
  match fuel, ns with
  | fuel + 1, c :: length :: rest =>
    (c, rest.take length) :: replacementsOf fuel (rest.drop length)
  | _, _ => []

def replacementTable : List (Nat × List Nat) :=
  let ns := numbers
    ["4o 2 w lk 4v 2 w lg 50 2 w ld 54 2 w mf 58 3 1d 6dg 1g 59 3 1d 6dg 1e 5a 3 1f 6dg 1g 8g 2 2x",
     "lj 8i 2 2x 2y 8j 2 2x 2y 8v 2 30 53 8w 2 30 53 95 2 jg 32 ck 2 2s am cl 2 2s am cm 2 2s am",
     "cn 2 30 2y co 2 30 2y cp 2 30 2y cq 2 32 2y cr 2 32 2y cs 2 32 2y dt 2 2s 3e du 2 2s 3e dv 2",
     "2s 3e k8 2 w li k9 2 w lj ka 2 w lm kb 2 w mg kc 2 w lf kd 2 w ln n8 2 lk ld oq 2 w qh p0 2",
     "w ld p1 3 w lk ld 13b 2 12d 136 19x 2 17r 19w 19y 2 18o 19w 19z 2 1c7 19w 1a0 2 18q 19w 1ug",
     "2 1sl 1to 1uh 2 1sm 1to 1ui 2 1sn 1to 1uj 2 1ss 1to 1uk 2 1sx 1to 1ul 2 1sy 1to 1um 2 1t7",
     "1to 1un 2 1tb 1to 1y4 2 1wh 1x8 1y5 2 1wi 1x8 1y7 2 1wv 1x8 20j 2 20i 20s 20m 2 20o 20s 21l",
     "2 1zq 20s 21m 2 1zr 20s 21n 2 1zw 20s 21q 2 20b 20s 28s 2 275 27w 28t 2 276 27w 2sz 2 2tp",
     "2sy 2wj 2 2x9 2wi 2xo 2 2wb 2vt 2xp 2 2wb 2w1 30j 2 30i 33r 30t 2 30s 33r 30y 2 30x 33r 313",
     "2 312 33r 318 2 317 33r 31l 2 30g 33p 31v 2 31t 31u 31x 2 31t 31w 31y 2 33m 328 31z 3 33m",
     "31t 328 320 2 33n 328 321 3 33n 31t 328 329 2 31t 328 32r 2 32q 33r 331 2 330 33r 336 2 335",
     "33r 33b 2 33a 33r 33g 2 33f 33r 33t 2 32o 33p 61m 2 2p ji 680 2 64g qh 681 2 64h qh 682 2",
     "64i qh 683 2 64j qh 684 2 64k qh 685 2 64l qh 686 2 64m qh 687 2 64n qh 688 2 64g qh 689 2",
     "64h qh 68a 2 64i qh 68b 2 64j qh 68c 2 64k qh 68d 2 64l qh 68e 2 64m qh 68f 2 64n qh 68g 2",
     "65c qh 68h 2 65d qh 68i 2 65e qh 68j 2 65f qh 68k 2 65g qh 68l 2 65h qh 68m 2 65i qh 68n 2",
     "65j qh 68o 2 65c qh 68p 2 65d qh 68q 2 65e qh 68r 2 65f qh 68s 2 65g qh 68t 2 65h qh 68u 2",
     "65i qh 68v 2 65j qh 68w 2 674 qh 68x 2 675 qh 68y 2 676 qh 68z 2 677 qh 690 2 678 qh 691 2",
     "679 qh 692 2 67a qh 693 2 67b qh 694 2 674 qh 695 2 675 qh 696 2 676 qh 697 2 677 qh 698 2",
     "678 qh 699 2 679 qh 69a 2 67a qh 69b 2 67b qh 69e 2 67k qh 69f 2 q9 qh 69g 2 q4 qh 69j 2 69i",
     "qh 69o 2 q9 qh 69p 2 w lv 69r 2 w lv 69s 2 w n6 69t 3 w lk n6 69u 2 67o qh 69v 2 qf qh 69w 2",
     "q6 qh 69z 2 69y qh 6a4 2 qf qh 6a5 3 w lv lc 6a6 3 w lv ld 6a7 3 w lv n6 6al 3 w lw lc 6am 3",
     "w lw ld 6an 3 w lw n6 6b1 3 w lk lc 6b2 3 w lk ld 6b6 2 67w qh 6b7 2 qx qh 6b8 2 r2 qh 6bb 2",
     "6ba qh 6bg 2 qx qh 6bh 2 w ld 6bi 2 w lw 6c7 2 w mr 6cz 2 6cy 6cy 6d0 3 6cy 6cy 6cy 6d2 2",
     "6d1 6d1 6d3 3 6d1 6d1 6d1 6d8 2 x x 6da 2 w lh 6dj 2 1r 1r 6dk 2 1r x 6dl 2 x 1r 6dz 4 6cy",
     "6cy 6cy 6cy 6g8 2 36 37 6io 3 2p 1b 2r 6ip 3 2p 1b 37 6ir 2 4w 2r 6it 3 2r 1b 33 6iu 3 2r 1b",
     "39 6ix 2 4w 2u 6ja 2 32 33 6jk 2 37 31 6jl 3 38 2t 30 6jm 2 38 31 6kb 3 2u 2p 3c 6kw 3 1d",
     "6dg 1j 6kx 3 1d 6dg 1l 6ky 4 1d 6dg 1d 1c 6kz 3 1d 6dg 1f 6l0 3 1e 6dg 1f 6l1 3 1d 6dg 1h",
     "6l2 3 1e 6dg 1h 6l3 3 1f 6dg 1h 6l4 3 1g 6dg 1h 6l5 3 1d 6dg 1i 6l6 3 1h 6dg 1i 6l7 3 1d 6dg",
     "1k 6l8 3 1f 6dg 1k 6l9 3 1h 6dg 1k 6la 3 1j 6dg 1k 6lb 2 1d 6dg 6ld 2 2x 2x 6le 3 2x 2x 2x",
     "6lf 2 2x 3a 6lh 2 3a 2x 6li 3 3a 2x 2x 6lj 4 3a 2x 2x 2x 6lk 2 2x 3c 6lm 2 3c 2x 6ln 3 3c 2x",
     "2x 6lt 2 2x 2x 6lu 3 2x 2x 2x 6lv 2 2x 3a 6lx 2 3a 2x 6ly 3 3a 2x 2x 6lz 4 3a 2x 2x 2x 6m0 2",
     "2x 3c 6m2 2 3c 2x 6m3 3 3c 2x 2x 6mh 3 1c 6dg 1f 6r0 2 6qz 6qz 6r1 3 6qz 6qz 6qz 6r3 2 6r2",
     "6r2 6r4 3 6r2 6r2 6r2 76x 2 1d 1c 76y 2 1d 1d 76z 2 1d 1e 770 2 1d 1f 771 2 1d 1g 772 2 1d",
     "1h 773 2 1d 1i 774 2 1d 1j 775 2 1d 1k 776 2 1d 1l 777 2 1e 1c 778 3 14 1d 15 779 3 14 1e 15",
     "77a 3 14 1f 15 77b 3 14 1g 15 77c 3 14 1h 15 77d 3 14 1i 15 77e 3 14 1j 15 77f 3 14 1k 15",
     "77g 3 14 1l 15 77h 4 14 1d 1c 15 77i 4 14 1d 1d 15 77j 4 14 1d 1e 15 77k 4 14 1d 1f 15 77l 4",
     "14 1d 1g 15 77m 4 14 1d 1h 15 77n 4 14 1d 1i 15 77o 4 14 1d 1j 15 77p 4 14 1d 1k 15 77q 4 14",
     "1d 1l 15 77r 4 14 1e 1c 15 78c 3 14 2p 15 78d 3 14 2q 15 78e 3 14 2r 15 78f 3 14 2s 15 78g 3",
     "14 2t 15 78h 3 14 2u 15 78i 3 14 2v 15 78j 3 14 2w 15 78k 3 14 2x 15 78l 3 14 2y 15 78m 3 14",
     "2z 15 78n 3 14 30 15 78o 3 14 31 15 78p 3 14 32 15 78q 3 14 33 15 78r 3 14 34 15 78s 3 14 35",
     "15 78t 3 14 36 15 78u 3 14 37 15 78v 3 14 38 15 78w 3 14 39 15 78x 3 14 3a 15 78y 3 14 3b 15",
     "78z 3 14 3c 15 790 3 14 3d 15 791 3 14 3e 15 8b0 4 6qz 6qz 6qz 6qz 8dw 3 1m 1m 1p 8dx 2 1p",
     "1p 8dy 3 1p 1p 1p 8gs 2 8gt mw 9ln 2 w 9ll 9lo 2 w 9lm 9lr 2 9l4 9l6 9of 2 9mb 9mw 9vk 3 14",
     "3cw 15 9vl 3 14 3cy 15 9vm 3 14 3cz 15 9vn 3 14 3d1 15 9vo 3 14 3d2 15 9vp 3 14 3d3 15 9vq 3",
     "14 3d5 15 9vr 3 14 3d7 15 9vs 3 14 3d8 15 9vt 3 14 3da 15 9vu 3 14 3db 15 9vv 3 14 3dc 15",
     "9vw 3 14 3dd 15 9vx 3 14 3de 15 9vy 3 14 xz4 15 9vz 3 14 yvs 15 9w0 3 14 zc4 15 9w1 3 14",
     "108s 15 9w2 3 14 10p4 15 9w3 3 14 115g 15 9w4 3 14 1224 15 9w5 3 14 12ys 15 9w6 3 14 13f4 15",
     "9w7 3 14 14bs 15 9w8 3 14 14s4 15 9w9 3 14 158g 15 9wa 3 14 15os 15 9wb 3 14 1654 15 9wc 3",
     "14 13p8 15 9wd 4 14 1350 13ic 15 9we 4 14 1350 16f8 15 9wg 3 14 feo 15 9wh 3 14 fik 15 9wi 3",
     "14 fex 15 9wj 3 14 h5n 15 9wk 3 14 fis 15 9wl 3 14 g31 15 9wm 3 14 fer 15 9wn 3 14 g2z 15",
     "9wo 3 14 fh9 15 9wp 3 14 gg1 15 9wq 3 14 kco 15 9wr 3 14 m7f 15 9ws 3 14 ldg 15 9wt 3 14 kdk",
     "15 9wu 3 14 ssx 15 9wv 3 14 h7j 15 9ww 3 14 k4l 15 9wx 3 14 kkq 15 9wy 3 14 kcp 15 9wz 3 14",
     "ny6 15 9x0 3 14 glp 15 9x1 3 14 mm1 15 9x2 3 14 rs1 15 9x3 3 14 nz1 15 9x4 3 14 gc4 15 9x5 3",
     "14 fkz 15 9x6 3 14 gos 15 9x7 3 14 i1y 15 9x8 3 14 nhf 15 9x9 3 14 flt 15 9xa 3 14 rt3 15",
     "9xb 3 14 ggk 15 9xc 3 14 nzh 15 9xd 3 14 fm9 15 9xe 3 14 pnu 15 9xf 3 14 po3 15 9xs 3 34 38",
     "2t 9xt 2 1e 1d 9xu 2 1e 1e 9xv 2 1e 1f 9xw 2 1e 1g 9xx 2 1e 1h 9xy 2 1e 1i 9xz 2 1e 1j 9y0 2",
     "1e 1k 9y1 2 1e 1l 9y2 2 1f 1c 9y3 2 1f 1d 9y4 2 1f 1e 9y5 2 1f 1f 9y6 2 1f 1g 9y7 2 1f 1h",
     "9z0 2 14c8 y5c 9z1 2 13p8 13dk a0h 2 1f 1i a0i 2 1f 1j a0j 2 1f 1k a0k 2 1f 1l a0l 2 1g 1c",
     "a0m 2 1g 1d a0n 2 1g 1e a0o 2 1g 1f a0p 2 1g 1g a0q 2 1g 1h a0r 2 1g 1i a0s 2 1g 1j a0t 2 1g",
     "1k a0u 2 1g 1l a0v 2 1h 1c a0w 2 1d kco a0x 2 1e kco a0y 2 1f kco a0z 2 1g kco a10 2 1h kco",
     "a11 2 1i kco a12 2 1j kco a13 2 1k kco a14 2 1l kco a15 3 1d 1c kco a16 3 1d 1d kco a17 3 1d",
     "1e kco a18 2 2w 2v a19 3 2t 36 2v a1a 2 2t 3a a1b 3 30 38 2s a2n 2 fl0 gp8 a2o 4 9lu 9n5 9oc",
     "9mw a2p 4 9lu 9nv 9n9 9lt a2q 4 9lu 9o3 9ne 9lu a2r 3 9lu 9oc 9nv a2s 4 9lw 9mz 9o3 9m8 a2t",
     "3 9lw 9o3 9mp a2u 3 9ly 9m1 9o3 a2v 5 9m0 9mh 9m7 9oc 9mx a2w 4 9m0 9oc 9m3 9oc a2x 3 9m2",
     "9o3 9mh a2y 3 9m2 9oc 9nk a2z 3 9m3 9lw 9nu a30 4 9m3 9nt 9mr 9mw a31 4 9m3 9nx 9nu 9oc a32",
     "3 9m4 9nx 9o3 a33 3 9m4 9o3 9ni a34 2 9m6 9m4 a35 3 9m6 9mz 9oc a36 4 9m5 9np 9nu 9oc a37 4",
     "9m6 9nv 9mo 9oc a38 2 9m5 9nx a39 5 9m5 9nx 9m8 9nt 9nk a3a 6 9m5 9nx 9nl 9oc 9mw 9nv a3b 5",
     "9m5 9nx 9nz 9mr 9mw a3c 3 9m8 9nt 9nk a3d 5 9m8 9nt 9nk 9mw 9o3 a3e 5 9m7 9nv 9mk 9lw 9nx",
     "a3f 4 9m7 9nx 9oc 9n1 a3g 3 9m9 9oc 9mh a3h 3 9mb 9nv 9my a3i 3 9mb 9oc 9nh a3j 4 9md 9lw",
     "9m7 9nv a3k 5 9md 9o3 9mp 9oc 9nk a3l 4 9mf 9nu 9o3 9m8 a3m 3 9mj 9o3 9mp a3n 3 9mj 9o3 9mw",
     "a3o 3 9mo 9oc 9mh a3p 2 9mv 9mf a3q 2 9mx 9nv a3r 2 9mw 9o3 a3s 2 9my 9n2 a3t 3 9n2 9mr 9mw",
     "a3u 3 9n3 9lw 9ms a3v 5 9n5 9oc 9mj 9o3 9mw a3w 3 9n5 9oc 9ms a3x 4 9n4 9oc 9nw 9nv a3y 5",
     "9n8 9lu 9mh 9mw 9nv a3z 3 9n8 9m7 9nv a40 2 9n8 9mb a41 2 9n7 9nv a42 5 9n9 9lt 9nt 9mr 9mx",
     "a43 4 9n9 9lv 9oc 9mw a44 5 9na 9mr 9mf 9lz 9nv a45 3 9n9 9nt 9o3 a46 5 9nc 9m7 9mn 9oc 9nv",
     "a47 2 9ne 9ml a48 3 9ne 9mz 9n6 a49 3 9nc 9nv 9ms a4a 3 9ne 9o3 9mh a4b 3 9ne 9oc 9mg a4c 3",
     "9nd 9oc 9mn a4d 4 9nh 9lw 9o3 9mw a4e 3 9ng 9nv 9mw a4f 2 9nf 9o3 a4g 3 9nh 9o3 9mx a4h 3",
     "9nf 9oc 9nv a4i 3 9nf 9oc 9o3 a4j 4 9ni 9lw 9m7 9nx a4k 3 9ni 9lw 9nv a4l 3 9ni 9mr 9n3 a4m",
     "3 9ni 9nv 9m7 a4n 5 9ni 9o3 9mf 9nr 9o3 a4o 4 9nj 9m7 9nx 9o3 a4p 2 9nj 9nu a4q 5 9nj 9nu",
     "9n4 9oc 9nv a4r 2 9nl 9m4 a4s 4 9nl 9m4 9mw 9o3 a4t 4 9nl 9oc 9mw 9nv a4u 3 9no 9oc 9mx a4v",
     "3 9no 9oc 9nv a4w 3 9nq 9lu 9o3 a4x 4 9nu 9mr 9mw 9nv a4y 2 9nu 9nt a4z 3 9nv 9n8 9oc a50 4",
     "9nv 9oc 9na 9nv a51 2 9nw 9nk a52 5 9nw 9o3 9mw 9ma 9o3 a53 3 9nz 9mr 9mw a54 2 1c m9l a55 2",
     "1d m9l a56 2 1e m9l a57 2 1f m9l a58 2 1g m9l a59 2 1h m9l a5a 2 1i m9l a5b 2 1j m9l a5c 2",
     "1k m9l a5d 2 1l m9l a5e 3 1d 1c m9l a5f 3 1d 1d m9l a5g 3 1d 1e m9l a5h 3 1d 1f m9l a5i 3 1d",
     "1g m9l a5j 3 1d 1h m9l a5k 3 1d 1i m9l a5l 3 1d 1j m9l a5m 3 1d 1k m9l a5n 3 1d 1l m9l a5o 3",
     "1e 1c m9l a5p 3 1e 1d m9l a5q 3 1e 1e m9l a5r 3 1e 1f m9l a5s 3 1e 1g m9l a5t 3 2w 34 2p a5u",
     "2 2s 2p a5v 2 2p 39 a5w 3 2q 2p 36 a5x 2 33 3a a5y 2 34 2r a5z 2 2s 31 a60 3 2s 31 1e a61 3",
     "2s 31 1f a62 2 2x 39 a63 2 inn jdc a64 2 k6l gp8 a65 2 hlz l7n a66 2 k5q lh7 a67 4 kkq irz",
     "fmi ny6 a68 2 34 2p a69 2 32 2p a6a 2 qk 2p a6b 2 31 2p a6c 2 2z 2p a6d 2 2z 2q a6e 2 31 2q",
     "a6f 2 2v 2q a6g 3 2r 2p 30 a6h 4 2z 2r 2p 30 a6i 2 34 2u a6j 2 32 2u a6k 2 qk 2u a6l 2 qk 2v",
     "a6m 2 31 2v a6n 2 2z 2v a6o 2 2w 3e a6p 3 2z 2w 3e a6q 3 31 2w 3e a6r 3 2v 2w 3e a6s 3 38 2w",
     "3e a6t 2 qk 30 a6u 2 31 30 a6v 2 2s 30 a6w 2 2z 30 a6x 2 2u 31 a6y 2 32 31 a6z 2 qk 31 a70 2",
     "31 31 a71 2 2r 31 a72 2 2z 31 a73 3 31 31 1e a74 3 2r 31 1e a75 2 31 1e a76 3 2z 31 1e a77 3",
     "31 31 1f a78 3 2r 31 1f a79 2 31 1f a7a 3 2z 31 1f a7b 3 31 6qd 37 a7c 4 31 6qd 37 1e a7d 2",
     "34 2p a7e 3 2z 34 2p a7f 3 31 34 2p a7g 3 2v 34 2p a7h 3 36 2p 2s a7i 5 36 2p 2s 6qd 37 a7j",
     "6 36 2p 2s 6qd 37 1e a7k 2 34 37 a7l 2 32 37 a7m 2 qk 37 a7n 2 31 37 a7o 2 34 3a a7p 2 32 3a",
     "a7q 2 qk 3a a7r 2 31 3a a7s 2 2z 3a a7t 2 31 3a a7u 2 34 3b a7v 2 32 3b a7w 2 qk 3b a7x 2 31",
     "3b a7y 2 2z 3b a7z 2 31 3b a80 2 2z qx a81 2 31 qx a83 2 2q 35 a84 2 2r 2r a85 2 2r 2s a86 4",
     "2r 6qd 2z 2v a88 2 2s 2q a89 2 2v 3d a8a 2 2w 2p a8b 2 2w 34 a8c 2 2x 32 a8d 2 2z 2z a8e 2",
     "2z 31 a8f 2 2z 38 a8g 2 30 31 a8h 2 30 32 a8i 3 30 33 2v a8j 2 30 3c a8k 2 31 2q a8l 3 31 2x",
     "30 a8m 3 31 33 30 a8n 2 34 2w a8p 3 34 34 31 a8q 2 34 36 a8r 2 37 36 a8s 2 37 3a a8t 2 3b 2q",
     "a8u 3 3a 6qd 31 a8v 3 2p 6qd 31 a8w 2 1d k4l a8x 2 1e k4l a8y 2 1f k4l a8z 2 1g k4l a90 2 1h",
     "k4l a91 2 1i k4l a92 2 1j k4l a93 2 1k k4l a94 2 1l k4l a95 3 1d 1c k4l a96 3 1d 1d k4l a97",
     "3 1d 1e k4l a98 3 1d 1f k4l a99 3 1d 1g k4l a9a 3 1d 1h k4l a9b 3 1d 1i k4l a9c 3 1d 1j k4l",
     "a9d 3 1d 1k k4l a9e 3 1d 1l k4l a9f 3 1e 1c k4l a9g 3 1e 1d k4l a9h 3 1e 1e k4l a9i 3 1e 1f",
     "k4l a9j 3 1e 1g k4l a9k 3 1e 1h k4l a9l 3 1e 1i k4l a9m 3 1e 1j k4l a9n 3 1e 1k k4l a9o 3 1e",
     "1l k4l a9p 3 1f 1c k4l a9q 3 1f 1d k4l a9r 3 2v 2p 30 1dkw 2 2u 2u 1dkx 2 2u 2x 1dky 2 2u 30",
     "1dkz 3 2u 2u 2x 1dl0 3 2u 2u 30 1dl1 2 37 38 1dl2 2 37 38 1dlf 2 12s 12u 1dlg 2 12s 12d 1dlh",
     "2 12s 12j 1dli 2 132 12u 1dlj 2 12s 12l 1dlp 2 15l 14k 1dlr 2 16a 14n 1dm2 2 161 14x 1dm3 2",
     "161 14y 1dm4 3 161 14s 14x 1dm5 3 161 14s 14y 1dm6 2 15c 14n 1dm7 2 15c 14o 1dm8 2 15c 14s",
     "1dm9 2 15d 14s 1dma 2 15e 14s 1dmb 2 15f 14s 1dmc 2 15g 14s 1dmd 2 15h 14s 1dme 2 15i 14s",
     "1dmg 2 15k 14s 1dmh 2 15l 14s 1dmi 2 15m 14s 1dmj 2 15n 14s 1dmk 2 15o 14s 1dmm 2 15q 14s",
     "1dmo 2 15s 14s 1dmp 2 15t 14s 1dmr 2 15v 14s 1dms 2 15w 14s 1dmu 2 15y 14s 1dmv 2 15z 14s",
     "1dmw 2 160 14s 1dmx 2 161 14s 1dmy 2 162 14s 1dmz 2 15h 14p 1dn0 2 15d 14v 1dn1 2 15n 14v",
     "1dn2 2 15w 14v 1dn3 2 15c 15o 1dr1 2 1c7 19w 1dre 2 17q 17r 1drf 2 17q 17r 1drg 2 17q 1cl",
     "1drh 2 17q 1cl 1dri 2 17q 18o 1drj 2 17q 18o 1drk 2 17q 1c7 1drl 2 17q 1c7 1drm 2 17q 1c6",
     "1drn 2 17q 1c6 1dro 2 17q 1c8 1drp 2 17q 1c8 1drq 2 17q 1cg 1drr 2 17q 1cg 1drs 2 17q 1cg",
     "1drt 2 17q 18p 1dru 2 17q 18p 1drv 2 17q 18p 1ds0 2 17q 17w 1ds1 2 17q 17x 1ds2 2 17q 18l",
     "1ds3 2 17q 18p 1ds4 2 17q 18q 1ds5 2 17s 17w 1ds6 2 17s 17x 1ds7 2 17s 17y 1ds8 2 17s 18l",
     "1ds9 2 17s 18p 1dsa 2 17s 18q 1dsb 2 17u 17w 1dsc 2 17u 17x 1dsd 2 17u 17y 1dse 2 17u 18l",
     "1dsf 2 17u 18p 1dsg 2 17u 18q 1dsh 2 17v 17w 1dsi 2 17v 18l 1dsj 2 17v 18p 1dsk 2 17v 18q",
     "1dsl 2 17w 17x 1dsm 2 17w 18l 1dsn 2 17x 17w 1dso 2 17x 18l 1dsp 2 17y 17w 1dsq 2 17y 17x",
     "1dsr 2 17y 18l 1dss 2 183 17w 1dst 2 183 17x 1dsu 2 183 17y 1dsv 2 183 18l 1dsw 2 185 17x",
     "1dsx 2 185 18l 1dsy 2 186 17w 1dsz 2 186 17x 1dt0 2 186 17y 1dt1 2 186 18l 1dt2 2 187 17x",
     "1dt3 2 187 18l 1dt4 2 188 18l 1dt5 2 189 17w 1dt6 2 189 18l 1dt7 2 18a 17w 1dt8 2 18a 18l",
     "1dt9 2 18h 17w 1dta 2 18h 17x 1dtb 2 18h 17y 1dtc 2 18h 18l 1dtd 2 18h 18p 1dte 2 18h 18q",
     "1dtf 2 18i 17x 1dtg 2 18i 18l 1dth 2 18i 18p 1dti 2 18i 18q 1dtj 2 18j 17r 1dtk 2 18j 17w",
     "1dtl 2 18j 17x 1dtm 2 18j 17y 1dtn 2 18j 18k 1dto 2 18j 18l 1dtp 2 18j 18p 1dtq 2 18j 18q",
     "1dtr 2 18k 17w 1dts 2 18k 17x 1dtt 2 18k 17y 1dtu 2 18k 18l 1dtv 2 18k 18p 1dtw 2 18k 18q",
     "1dtx 2 18l 17w 1dty 2 18l 17x 1dtz 2 18l 17y 1du0 2 18l 18l 1du1 2 18l 18p 1du2 2 18l 18q",
     "1du3 2 18m 17w 1du4 2 18m 17x 1du5 2 18m 17y 1du6 2 18m 18l 1du7 2 18m 18p 1du8 2 18m 18q",
     "1du9 2 18n 17w 1dua 2 18n 18l 1dub 2 18n 18p 1duc 2 18n 18q 1dud 2 18q 17w 1due 2 18q 17x",
     "1duf 2 18q 17y 1dug 2 18q 18l 1duh 2 18q 18p 1dui 2 18q 18q 1duj 2 180 19s 1duk 2 181 19s",
     "1dul 2 18p 19s 1dum 3 w 18s 18x 1dun 3 w 18t 18x 1duo 3 w 18u 18x 1dup 3 w 18v 18x 1duq 3 w",
     "18w 18x 1dur 3 w 18x 19s 1dus 2 17q 181 1dut 2 17q 182 1duu 2 17q 18l 1duv 2 17q 18m 1duw 2",
     "17q 18p 1dux 2 17q 18q 1duy 2 17s 181 1duz 2 17s 182 1dv0 2 17s 18l 1dv1 2 17s 18m 1dv2 2",
     "17s 18p 1dv3 2 17s 18q 1dv4 2 17u 181 1dv5 2 17u 182 1dv6 2 17u 18l 1dv7 2 17u 18m 1dv8 2",
     "17u 18p 1dv9 2 17u 18q 1dva 2 17v 181 1dvb 2 17v 182 1dvc 2 17v 18l 1dvd 2 17v 18m 1dve 2",
     "17v 18p 1dvf 2 17v 18q 1dvg 2 18h 18p 1dvh 2 18h 18q 1dvi 2 18i 18p 1dvj 2 18i 18q 1dvk 2",
     "18j 17r 1dvl 2 18j 18k 1dvm 2 18j 18l 1dvn 2 18j 18p 1dvo 2 18j 18q 1dvp 2 18k 18l 1dvq 2",
     "18k 18p 1dvr 2 18k 18q 1dvs 2 18l 17r 1dvt 2 18l 18l 1dvu 2 18m 181 1dvv 2 18m 182 1dvw 2",
     "18m 18l 1dvx 2 18m 18m 1dvy 2 18m 18p 1dvz 2 18m 18q 1dw0 2 18p 19s 1dw1 2 18q 181 1dw2 2",
     "18q 182 1dw3 2 18q 18l 1dw4 2 18q 18m 1dw5 2 18q 18p 1dw6 2 18q 18q 1dw7 2 17q 17w 1dw8 2",
     "17q 17x 1dw9 2 17q 17y 1dwa 2 17q 18l 1dwb 2 17q 18n 1dwc 2 17s 17w 1dwd 2 17s 17x 1dwe 2",
     "17s 17y 1dwf 2 17s 18l 1dwg 2 17s 18n 1dwh 2 17u 17w 1dwi 2 17u 17x 1dwj 2 17u 17y 1dwk 2",
     "17u 18l 1dwl 2 17u 18n 1dwm 2 17v 18l 1dwn 2 17w 17x 1dwo 2 17w 18l 1dwp 2 17x 17w 1dwq 2",
     "17x 18l 1dwr 2 17y 17w 1dws 2 17y 18l 1dwt 2 183 17w 1dwu 2 183 17x 1dwv 2 183 17y 1dww 2",
     "183 18l 1dwx 2 185 17x 1dwy 2 185 17y 1dwz 2 185 18l 1dx0 2 186 17w 1dx1 2 186 17x 1dx2 2",
     "186 17y 1dx3 2 186 18l 1dx4 2 187 17x 1dx5 2 188 18l 1dx6 2 189 17w 1dx7 2 189 18l 1dx8 2",
     "18a 17w 1dx9 2 18a 18l 1dxa 2 18h 17w 1dxb 2 18h 17x 1dxc 2 18h 17y 1dxd 2 18h 18l 1dxe 2",
     "18i 17x 1dxf 2 18i 18l 1dxg 2 18j 17w 1dxh 2 18j 17x 1dxi 2 18j 17y 1dxj 2 18j 18k 1dxk 2",
     "18j 18l 1dxl 2 18k 17w 1dxm 2 18k 17x 1dxn 2 18k 17y 1dxo 2 18k 18l 1dxp 2 18k 18n 1dxq 2",
     "18l 17w 1dxr 2 18l 17x 1dxs 2 18l 17y 1dxt 2 18l 18l 1dxu 2 18m 17w 1dxv 2 18m 17x 1dxw 2",
     "18m 17y 1dxx 2 18m 18l 1dxy 2 18m 18n 1dxz 2 18n 17w 1dy0 2 18n 18l 1dy1 2 18n 19s 1dy2 2",
     "18q 17w 1dy3 2 18q 17x 1dy4 2 18q 17y 1dy5 2 18q 18l 1dy6 2 18q 18n 1dy7 2 17q 18l 1dy8 2",
     "17q 18n 1dy9 2 17s 18l 1dya 2 17s 18n 1dyb 2 17u 18l 1dyc 2 17u 18n 1dyd 2 17v 18l 1dye 2",
     "17v 18n 1dyf 2 183 18l 1dyg 2 183 18n 1dyh 2 184 18l 1dyi 2 184 18n 1dyj 2 18j 18k 1dyk 2",
     "18j 18l 1dyl 2 18k 18l 1dym 2 18m 18l 1dyn 2 18m 18n 1dyo 2 18q 18l 1dyp 2 18q 18n 1dyq 3",
     "18g 18u 18x 1dyr 3 18g 18v 18x 1dys 3 18g 18w 18x 1dyt 2 187 18p 1dyu 2 187 18q 1dyv 2 189",
     "18p 1dyw 2 189 18q 1dyx 2 18a 18p 1dyy 2 18a 18q 1dyz 2 183 18p 1dz0 2 183 18q 1dz1 2 184",
     "18p 1dz2 2 184 18q 1dz3 2 17x 18p 1dz4 2 17x 18q 1dz5 2 17w 18p 1dz6 2 17w 18q 1dz7 2 17y",
     "18p 1dz8 2 17y 18q 1dz9 2 185 18p 1dza 2 185 18q 1dzb 2 186 18p 1dzc 2 186 18q 1dzd 2 184",
     "17w 1dze 2 184 17x 1dzf 2 184 17y 1dzg 2 184 18l 1dzh 2 184 181 1dzi 2 183 181 1dzj 2 185",
     "181 1dzk 2 186 181 1dzl 2 187 18p 1dzm 2 187 18q 1dzn 2 189 18p 1dzo 2 189 18q 1dzp 2 18a",
     "18p 1dzq 2 18a 18q 1dzr 2 183 18p 1dzs 2 183 18q 1dzt 2 184 18p 1dzu 2 184 18q 1dzv 2 17x",
     "18p 1dzw 2 17x 18q 1dzx 2 17w 18p 1dzy 2 17w 18q 1dzz 2 17y 18p 1e00 2 17y 18q 1e01 2 185",
     "18p 1e02 2 185 18q 1e03 2 186 18p 1e04 2 186 18q 1e05 2 184 17w 1e06 2 184 17x 1e07 2 184",
     "17y 1e08 2 184 18l 1e09 2 184 181 1e0a 2 183 181 1e0b 2 185 181 1e0c 2 186 181 1e0d 2 184",
     "17w 1e0e 2 184 17x 1e0f 2 184 17y 1e0g 2 184 18l 1e0h 2 183 18n 1e0i 2 184 18n 1e0j 2 187",
     "18l 1e0k 2 183 17w 1e0l 2 183 17x 1e0m 2 183 17y 1e0n 2 184 17w 1e0o 2 184 17x 1e0p 2 184",
     "17y 1e0q 2 187 18l 1e0r 2 188 18l 1e0s 2 17r 18r 1e0t 2 17r 18r 1e1c 3 17u 17w 18l 1e1d 3",
     "17u 17x 17w 1e1e 3 17u 17x 17w 1e1f 3 17u 17x 18l 1e1g 3 17u 17y 18l 1e1h 3 17u 18l 17w 1e1i",
     "3 17u 18l 17x 1e1j 3 17u 18l 17y 1e1k 3 17w 18l 17x 1e1l 3 17w 18l 17x 1e1m 3 17x 18l 18q",
     "1e1n 3 17x 18l 18p 1e1o 3 183 17x 17w 1e1p 3 183 17w 17x 1e1q 3 183 17w 18p 1e1r 3 183 18l",
     "17x 1e1s 3 183 18l 17x 1e1t 3 183 18l 17w 1e1u 3 183 18l 18l 1e1v 3 183 18l 18l 1e1w 3 185",
     "17x 17x 1e1x 3 185 17x 17x 1e1y 3 185 18l 18l 1e1z 3 184 17x 18l 1e20 3 184 17x 18l 1e21 3",
     "184 17w 18q 1e22 3 184 18l 17y 1e23 3 184 18l 17y 1e24 3 184 18l 18l 1e25 3 184 18l 18l 1e26",
     "3 186 17x 18p 1e27 3 186 17y 18l 1e28 3 186 17y 18l 1e29 3 187 18l 17x 1e2a 3 187 18l 17x",
     "1e2b 3 187 18l 18l 1e2c 3 187 18l 18q 1e2d 3 189 17w 18l 1e2e 3 189 18l 18l 1e2f 3 189 18l",
     "18l 1e2g 3 189 18l 18p 1e2h 3 18a 18l 18l 1e2i 3 18a 18l 18q 1e2j 3 18a 18l 18p 1e2k 3 18h",
     "17y 18l 1e2l 3 18h 17y 18l 1e2m 3 18i 18l 17x 1e2n 3 18i 18l 18l 1e2o 3 18k 17x 18l 1e2p 3",
     "18k 17x 18q 1e2q 3 18k 17x 18p 1e2r 3 18k 17w 17w 1e2s 3 18k 17w 17w 1e2t 3 18k 17y 18l 1e2u",
     "3 18k 17y 18l 1e2v 3 18k 18l 17x 1e2w 3 18k 18l 17x 1e2x 3 18l 17x 17w 1e2y 3 18l 17x 18l",
     "1e2z 3 18l 17x 18q 1e30 3 18l 17w 17x 1e31 3 18l 17w 18l 1e32 3 18l 17y 17w 1e33 3 18l 17y",
     "18l 1e36 3 18l 17w 17y 1e37 3 18n 18l 17w 1e38 3 18n 18l 18l 1e39 3 18m 17x 18l 1e3a 3 18m",
     "17x 18p 1e3b 3 18m 17w 18l 1e3c 3 18m 17w 18l 1e3d 3 18m 17w 18p 1e3e 3 18m 18l 18q 1e3f 3",
     "18m 18l 18p 1e3g 3 18q 18l 18l 1e3h 3 18q 18l 18l 1e3i 3 17s 17y 18q 1e3j 3 17u 17w 18q 1e3k",
     "3 17u 17w 18p 1e3l 3 17u 17y 18q 1e3m 3 17u 17y 18p 1e3n 3 17u 18l 18q 1e3o 3 17u 18l 18p",
     "1e3p 3 17w 18l 18q 1e3q 3 17w 17x 18p 1e3r 3 17w 18l 18p 1e3s 3 183 17y 18p 1e3t 3 185 17x",
     "18q 1e3u 3 184 17x 18q 1e3v 3 186 17x 18q 1e3w 3 18k 17w 18q 1e3x 3 18k 18l 18q 1e3y 3 18q",
     "17x 18q 1e3z 3 18q 17w 18q 1e40 3 18q 18l 18q 1e41 3 18l 18l 18q 1e42 3 18i 18l 18q 1e43 3",
     "18m 17x 18q 1e44 3 18i 18l 17x 1e45 3 18k 17x 18l 1e46 3 189 18l 18q 1e47 3 18j 18l 18q 1e48",
     "3 18m 17w 17x 1e49 3 18l 17y 18q 1e4a 3 18k 17w 18l 1e4b 3 18j 18l 18l 1e4c 3 18k 17w 18l",
     "1e4d 3 18m 17w 17x 1e4e 3 17w 17x 18q 1e4f 3 17x 17w 18q 1e4g 3 18l 17w 18q 1e4h 3 18h 18l",
     "18q 1e4i 3 17s 17x 18q 1e4j 3 18j 18l 18l 1e4k 3 189 17w 18l 1e4l 3 185 18l 18l 1e4m 3 183",
     "17y 18q 1e4n 3 18m 17w 18q 1e5s 3 185 18k 1ci 1e5t 3 18i 18k 1ci 1e5u 4 17r 18k 18k 18n 1e5v",
     "4 17r 18j 17s 181 1e5w 4 18l 17x 18l 17z 1e5x 4 185 18k 189 18l 1e5y 4 181 183 18o 18k 1e5z",
     "4 189 18k 18q 18n 1e60 4 18o 183 18k 18l 1e61 3 185 18k 18p 1e62 i 185 18k 18p w 17r 18k 18k",
     "18n w 189 18k 18q 18n w 18o 183 18k 18l 1e63 8 17w 18k w 17w 18k 17r 18k 18n 1e64 4 181 1cc",
     "17r 18k 1e89 2 w lh 1e8a 2 w lh 1e8b 2 w lh 1e8c 2 w lh 1e9c 2 w 18r 1e9d 2 18g 18r 1e9e 2 w",
     "18s 1e9g 2 w 18t 1e9i 2 w 18u 1e9j 2 18g 18u 1e9k 2 w 18v 1e9l 2 18g 18v 1e9m 2 w 18w 1e9n 2",
     "18g 18w 1e9o 2 w 18x 1e9p 2 18g 18x 1e9q 2 w 18y 1e9r 2 18g 18y 1ed1 2 18k 17m 1ed2 2 18k",
     "17m 1ed3 2 18k 17n 1ed4 2 18k 17n 1ed5 2 18k 17p 1ed6 2 18k 17p 1ed7 2 18k 17r 1ed8 2 18k",
     "17r 1ejn 2 w lg 2jxa 2 2jx3 2jxh 2jxb 2 2jx4 2jxh 2jxc 3 2jx4 2jxh 2jxq 2jxd 3 2jx4 2jxh",
     "2jxr 2jxe 3 2jx4 2jxh 2jxs 2jxf 3 2jx4 2jxh 2jxt 2jxg 3 2jx4 2jxh 2jxu 2jzv 2 2jzt 2jxh 2jzw",
     "2 2jzu 2jxh 2jzx 3 2jzt 2jxh 2jxq 2jzy 3 2jzu 2jxh 2jxq 2jzz 3 2jzt 2jxh 2jxr 2k00 3 2jzu",
     "2jxh 2jxr 2q69 2 1c 18 2q6a 2 1d 18 2q6b 2 1e 18 2q6c 2 1f 18 2q6d 2 1g 18 2q6e 2 1h 18 2q6f",
     "2 1i 18 2q6g 2 1j 18 2q6h 2 1k 18 2q6i 2 1l 18 2q6o 3 14 2p 15 2q6p 3 14 2q 15 2q6q 3 14 2r",
     "15 2q6r 3 14 2s 15 2q6s 3 14 2t 15 2q6t 3 14 2u 15 2q6u 3 14 2v 15 2q6v 3 14 2w 15 2q6w 3 14",
     "2x 15 2q6x 3 14 2y 15 2q6y 3 14 2z 15 2q6z 3 14 30 15 2q70 3 14 31 15 2q71 3 14 32 15 2q72 3",
     "14 33 15 2q73 3 14 34 15 2q74 3 14 35 15 2q75 3 14 36 15 2q76 3 14 37 15 2q77 3 14 38 15",
     "2q78 3 14 39 15 2q79 3 14 3a 15 2q7a 3 14 3b 15 2q7b 3 14 3c 15 2q7c 3 14 3d 15 2q7d 3 14 3e",
     "15 2q7e 3 9hw 37 9hx 2q7h 2 2r 2s 2q7i 2 3b 3e 2q8a 2 2w 3a 2q8b 2 31 3a 2q8c 2 37 2s 2q8d 2",
     "37 37 2q8e 3 34 34 3a 2q8f 2 3b 2r 2q96 2 31 2r 2q97 2 31 2s 2q98 2 31 36 2qa8 2 2s 2y 2qdc",
     "2 9kr 9jf 2qdd 2 9mb 9mb 2qf4 3 9hw kdo 9hx 2qf5 3 9hw fex 9hx 2qf6 3 9hw fik 9hx 2qf7 3 9hw",
     "i2x 9hx 2qf8 3 9hw m9l 9hx 2qf9 3 9hw jf7 9hx 2qfa 3 9hw nh3 9hx 2qfb 3 9hw gd9 9hx 2qfc 3",
     "9hw k0n 9hx"]
  replacementsOf ns.length ns

/-- The replacement of a character in a series. -/
def Series.replace? (s : Series) (c : Nat) : Option Nat :=
  if s.first ≤ c ∧ c < s.first + s.stride * s.count ∧ (c - s.first) % s.stride = 0 then
    some (s.target + (c - s.first))
  else none

/-- The replacement of a character that has one. -/
def replacement? (c : Char) : Option (List Char) :=
  match seriesTable.findSome? (fun s => s.replace? c.toNat) with
  | some n => some [Char.ofNat n]
  | none =>
    match pairTable.lookup c.toNat with
    | some n => some [Char.ofNat n]
    | none => (replacementTable.lookup c.toNat).map (·.map Char.ofNat)

/-- What becomes of a character; `none` if it is refused. -/
def mapped? (c : Char) : Option (List Char) :=
  if c.toNat < 0x80 then some [c.toLower]
  else if refused.contains c then none
  else if leftOut.contains c then some []
  else some ((replacement? c).getD [c])

def isKept (c : Char) : Bool := mapped? c == some [c]

end QuerySwarm.Unicode
