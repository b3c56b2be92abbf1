import QuerySwarm.Unicode.Runs

/-!
# Canonical composition

Characters are taken apart into their parts, marks are put in the order of their combining classes,
and what can be composed is composed. Syllables of Hangul are computed; all other composites are
listed with their two parts.
-/

namespace QuerySwarm.Unicode

/-- A run of characters with one combining class. -/
structure ClassRun where
  first : Nat
  last : Nat
  combiningClass : Nat

/-- The runs of a list of gaps, lengths and classes. -/
def classRunsFrom (start : Nat) : List Nat → List ClassRun
  | gap :: length :: cls :: rest =>
    ⟨start + gap, start + gap + length - 1, cls⟩ :: classRunsFrom (start + gap + length) rest
  | _ => []

/-- The characters whose combining class is not zero. -/
def classTable : List ClassRun := classRunsFrom 0 (numbers
  ["lc l 6e 0 1 6g 0 4 64 0 1 6g 0 1 60 0 5 64 0 2 5m 0 4 64 0 2 5m 0 b 64 0 5 1 0 4 64 0 8 6e 0",
   "1 6o 0 1 6e 0 3 64 0 3 6e 0 2 64 1 3 6e 0 4 64 0 1 6e 0 1 6g 0 2 64 0 1 6e 0 1 6h 0 2 6i 0 1",
   "6h 0 2 6i 0 1 6h 0 d 6e 7n 5 6e 7d 1 64 0 4 6e 0 1 64 0 3 6e 0 1 66 0 1 64 0 6 6e 0 6 64 0 2",
   "6e 0 1 64 0 2 6e 0 1 66 0 1 6c 0 1 6e 0 1 a 0 1 b 0 1 c 0 1 d 0 1 e 0 1 f 0 1 g 0 1 h 0 1 i",
   "0 2 j 0 1 k 0 1 l 0 1 m 1 1 n 1 1 o 0 1 p 1 1 6e 0 1 64 1 1 i 20 8 6e 0 1 u 0 1 v 0 1 w 1c 1",
   "r 0 1 s 0 1 t 0 1 u 0 1 v 0 1 w 0 1 x 0 1 y 0 2 6e 0 2 64 0 5 6e 0 1 64 0 2 6e 0 1 64 g 1 z",
   "2t 7 6e 2 4 6e 0 1 64 0 1 6e 2 2 6e 1 1 64 0 2 6e 0 1 64 z 1 10 u 1 6e 0 1 64 0 2 6e 0 1 64",
   "0 2 6e 0 3 64 0 1 6e 0 2 64 0 1 6e 0 1 64 0 3 6e 0 1 64 0 1 6e 0 1 64 0 1 6e 0 1 64 0 1 6e 0",
   "1 64 0 2 6e 4g 7 6e 0 1 64 0 1 6e 9 1 64 o 4 6e 1 9 6e 1 3 6e 1 5 6e 17 3 64 1o 1 6e 0 3 64",
   "0 4 6e 16 5 6e 0 5 64 0 e 6e 1 1 64 0 2 6e 0 1 64 0 2 6e 0 1 64 0 3 6e 0 3 64 0 1 r 0 1 s 0",
   "1 t 0 3 6e 0 1 64 0 2 6e 0 2 64 0 5 6e 1o 1 7 g 1 9 3 1 6e 0 1 64 0 2 6e 2v 1 7 g 1 9 1c 1",
   "6e 1p 1 7 g 1 9 32 1 7 g 1 9 32 1 7 g 1 9 3j 1 9 32 1 7 g 1 9 7 1 2c 0 1 2j 2t 1 7 g 1 9 31",
   "2 9 g 1 9 3g 1 9 31 2 2v 0 1 9 d 4 2z 30 2 3a 0 1 9 d 4 3e 24 2 64 r 1 64 1 1 64 1 1 60 1j 1",
   "3l 0 1 3m 1 1 3o 5 4 3m 2 1 3m 1 2 6e 0 1 9 1 2 6e 1q 1 64 34 1 7 1 2 9 2a 1 64 jz 3 6e qc 2",
   "9 u 1 9 4d 1 9 a 1 6e 5n 1 6c 3z 1 66 0 1 6e 0 1 64 63 1 6e 0 1 64 1z 1 9 k 8 6e 2 1 64 1c 5",
   "6e 0 6 64 0 2 6e 0 1 64 1 2 64 0 2 6e 0 2 64 0 5 6e 0 1 64 0 4 6e 2t 1 7 f 1 9 12 1 6e 0 1",
   "64 0 7 6e 1i 2 9 1m 1 7 b 2 9 1v 1 7 48 3 6e 1 1 1 0 5 64 0 2 6e 0 4 64 0 1 6e 1 7 1 4 1 64",
   "6 1 6e 3 2 6e 5i 2 6e 0 1 64 0 7 6e 0 1 64 0 2 6e 0 1 6i 0 1 5y 0 1 64 0 1 5m 0 11 6e 0 1 6g",
   "0 2 6c 0 1 64 0 1 62 0 1 6e 0 1 6h 0 1 64 0 1 6e 0 1 64 k0 2 6e 0 2 1 0 4 6e 0 3 1 0 2 6e 4",
   "1 6e 3 2 1 0 1 6e 0 1 64 0 1 6e 0 2 1 0 4 64 0 1 6e 2da 3 6e 3x 1 9 2o w 6e fe 1 62 0 1 6c 0",
   "1 6g 0 1 66 0 2 68 2x 2 8 n9w 1 6e 4 a 6e w 2 6e 28 2 6e 7o 1 9 11 1 9 47 1 9 r i 6e 1l 3 64",
   "11 1 9 2n 1 7 c 1 9 6n 1 6e 1 2 6e 0 1 64 2 2 6e 5 2 6e 1 1 6e 1g 1 9 6u 1 9 fn4 1 q ld 7 6e",
   "0 7 64 0 2 6e r1 1 64 6a 1 64 45 5 6e 1aq 1 64 1 1 6e 14 1 6e 0 1 1 0 1 64 4 1 9 4l 1 6e 0 1",
   "64 fx 4 6e ar 2 6e 28 3 64 1y 2 64 0 3 6e 0 1 64 0 1 6e 0 4 64 1d 1 6e 0 1 64 0 1 6e 0 1 64",
   "5c 1 9 15 1 9 e 1 9 1l 1 9 0 1 7 1x 3 6e 1c 2 9 1q 1 7 24 1 9 9 1 7 2y 1 9 0 1 7 4y 1 7 0 1",
   "9 28 2 7 g 1 9 o 7 6e 3 5 6e 5p 1 9 3 1 7 n 1 6e 2r 1 9 0 1 7 6z 1 9 0 1 7 3i 1 9 3a 1 9 0 1",
   "7 37 1 9 7h 1 9 0 1 7 76 2 9 4 1 7 4c 1 9 2b 1 9 i 1 9 29 1 9 bp 1 9 76 1 7 1 2 9 29 1 9 bt",
   "2 9 ey5 5 1 1n 7 6e xl 2 6 f58 1 1 43q 2 60 0 3 1 3 1 6a 0 5 60 8 8 64 2 5 6e 0 2 64 u 4 6e",
   "44 3 6e 2pn 7 6e 1 h 6e 2 7 6e 1 2 6e 1 5 6e 2s 1 6e 4g 7 6e af 1 6e 1p 4 6e e4 2 6g 0 1 64",
   "0 1 6e rk 7 64 31 6 6e 0 1 7"])

def combiningClass (c : Nat) : Nat :=
  match classTable.find? (fun r => decide (r.first ≤ c ∧ c ≤ r.last)) with
  | some r => r.combiningClass
  | none => 0

/-- A composite and its two parts. -/
structure Composite where
  whole : Nat
  first : Nat
  second : Nat

def compositesOf : List Nat → List Composite
  | whole :: first :: second :: rest => ⟨whole, first, second⟩ :: compositesOf rest
  | _ => []

def compositeTable : List Composite := compositesOf (numbers
  ["5c 1t lc 5d 1t ld 5e 1t le 5f 1t lf 5g 1t lk 5h 1t lm 5j 1v mf 5k 1x lc 5l 1x ld 5m 1x le 5n",
   "1x lk 5o 21 lc 5p 21 ld 5q 21 le 5r 21 lk 5t 26 lf 5u 27 lc 5v 27 ld 5w 27 le 5x 27 lf 5y 27",
   "lk 61 2d lc 62 2d ld 63 2d le 64 2d lk 65 2h ld 68 2p lc 69 2p ld 6a 2p le 6b 2p lf 6c 2p lk",
   "6d 2p lm 6f 2r mf 6g 2t lc 6h 2t ld 6i 2t le 6j 2t lk 6k 2x lc 6l 2x ld 6m 2x le 6n 2x lk 6p",
   "32 lf 6q 33 lc 6r 33 ld 6s 33 le 6t 33 lf 6u 33 lk 6x 39 lc 6y 39 ld 6z 39 le 70 39 lk 71 3d",
   "ld 73 3d lk 74 1t lg 75 2p lg 76 1t li 77 2p li 78 1t mg 79 2p mg 7a 1v ld 7b 2r ld 7c 1v le",
   "7d 2r le 7e 1v lj 7f 2r lj 7g 1v lo 7h 2r lo 7i 1w lo 7j 2s lo 7m 1x lg 7n 2t lg 7o 1x li 7p",
   "2t li 7q 1x lj 7r 2t lj 7s 1x mg 7t 2t mg 7u 1x lo 7v 2t lo 7w 1z le 7x 2v le 7y 1z li 7z 2v",
   "li 80 1z lj 81 2v lj 82 1z mf 83 2v mf 84 20 le 85 2w le 88 21 lf 89 2x lf 8a 21 lg 8b 2x lg",
   "8c 21 li 8d 2x li 8e 21 mg 8f 2x mg 8g 21 lj 8k 22 le 8l 2y le 8m 23 mf 8n 2z mf 8p 24 ld 8q",
   "30 ld 8r 24 mf 8s 30 mf 8t 24 lo 8u 30 lo 8z 26 ld 90 32 ld 91 26 mf 92 32 mf 93 26 lo 94 32",
   "lo 98 27 lg 99 33 lg 9a 27 li 9b 33 li 9c 27 ln 9d 33 ln 9g 2a ld 9h 36 ld 9i 2a mf 9j 36 mf",
   "9k 2a lo 9l 36 lo 9m 2b ld 9n 37 ld 9o 2b le 9p 37 le 9q 2b mf 9r 37 mf 9s 2b lo 9t 37 lo 9u",
   "2c mf 9v 38 mf 9w 2c lo 9x 38 lo a0 2d lf a1 39 lf a2 2d lg a3 39 lg a4 2d li a5 39 li a6 2d",
   "lm a7 39 lm a8 2d ln a9 39 ln aa 2d mg ab 39 mg ac 2f le ad 3b le ae 2h le af 3d le ag 2h lk",
   "ah 2i ld ai 3e ld aj 2i lj ak 3e lj al 2i lo am 3e lo bk 27 m3 bl 33 m3 bz 2d m3 c0 39 m3 ct",
   "1t lo cu 2p lo cv 21 lo cw 2x lo cx 27 lo cy 33 lo cz 2d lo d0 39 lo d1 64 lg d2 70 lg d3 64",
   "ld d4 70 ld d5 64 lo d6 70 lo d7 64 lc d8 70 lc da 5g lg db 6c lg dc fa lg dd fb lg de 5i lg",
   "df 6e lg di 1z lo dj 2v lo dk 23 lo dl 2z lo dm 27 mg dn 33 mg do dm lg dp dn lg dq c7 lo dr",
   "ia lo ds 2y lo dw 1z ld dx 2v ld e0 26 lc e1 32 lc e2 5h ld e3 6d ld e4 5i ld e5 6e ld e6 60",
   "ld e7 6w ld e8 1t lr e9 2p lr ea 1t lt eb 2p lt ec 1x lr ed 2t lr ee 1x lt ef 2t lt eg 21 lr",
   "eh 2x lr ei 21 lt ej 2x lt ek 27 lr el 33 lr em 27 lt en 33 lt eo 2a lr ep 36 lr eq 2a lt er",
   "36 lt es 2d lr et 39 lr eu 2d lt ev 39 lt ew 2b me ex 37 me ey 2c me ez 38 me f2 20 lo f3 2w",
   "lo fa 1t lj fb 2p lj fc 1x mf fd 2t mf fe 5y lg ff 6u lg fg 5x lg fh 6t lg fi 27 lj fj 33 lj",
   "fk fi lg fl fj lg fm 2h lg fn 3d lg p1 4o ld p2 pd ld p4 ph ld p5 pj ld p6 pl ld p8 pr ld pa",
   "px ld pb q1 ld pc qy ld q2 pl lk q3 px lk q4 q9 ld q5 qd ld q6 qf ld q7 qh ld q8 qz ld qy qh",
   "lk qz qt lk r0 qn ld r1 qt ld r2 qx ld r7 r6 ld r8 r6 lk sg t1 lc sh t1 lk sj sz ld sn sm lk",
   "ss t6 ld st t4 lc su tf li t5 t4 li u1 u0 li uo tx lc up tx lk ur tv ld uv uu lk v0 u2 ld v1",
   "u0 lc v2 ub li vq vo lr vr vp lr xt t2 li xu ty li y8 sw li y9 ts li ya sw lk yb ts lk ye t1",
   "li yf tx li yi yg lk yj yh lk yk t2 lk yl ty lk ym t3 lk yn tz lk yq t4 lg yr u0 lg ys t4 lk",
   "yt u0 lk yu ta lk yv u6 lk yy yw lk yz yx lk z0 tp lk z1 ul lk z2 tf lg z3 ub lg z4 tf lk z5",
   "ub lk z6 tf ln z7 ub ln z8 tj lk z9 uf lk zc tn lk zd uj lk 17m 17r 18z 17n 17r 190 17o 18o",
   "190 17p 17r 191 17q 18q 190 1c0 1cl 190 1c2 1c1 190 1cj 1ci 190 1t5 1t4 1to 1td 1tc 1to 1tg",
   "1tf 1to 1xn 1xj 1xa 1xo 1xj 1xz 288 287 28m 28b 287 27y 28c 287 28n 2ac 2aa 2c7 2bu 2bq 2bi",
   "2bv 2br 2bi 2bw 2bq 2c7 2fc 2fa 2fq 2io 2in 2j9 2iv 2iu 2j9 2iw 2iu 2ja 2iy 2iu 2iq 2iz 2iy",
   "2j9 2mi 2me 2m6 2mj 2mf 2m6 2mk 2me 2mv 2qi 2qh 2q2 2qk 2qh 2q7 2ql 2qk 2q2 2qm 2qh 2qn 36u",
   "36t 372 5c6 5c5 5dh 5c8 5c7 5dh 5ca 5c9 5dh 5cc 5cb 5dh 5ce 5cd 5dh 5ci 5ch 5dh 5dn 5dm 5dh",
   "5dp 5do 5dh 5ds 5dq 5dh 5dt 5dr 5dh 5dv 5du 5dh 5xc 1t md 5xd 2p md 5xe 1u lj 5xf 2q lj 5xg",
   "1u mb 5xh 2q mb 5xi 1u mp 5xj 2q mp 5xk 5j ld 5xl 6f ld 5xm 1w lj 5xn 2s lj 5xo 1w mb 5xp 2s",
   "mb 5xq 1w mp 5xr 2s mp 5xs 1w mf 5xt 2s mf 5xu 1w ml 5xv 2s ml 5xw 7m lc 5xx 7n lc 5xy 7m ld",
   "5xz 7n ld 5y0 1x ml 5y1 2t ml 5y2 1x mo 5y3 2t mo 5y4 fc li 5y5 fd li 5y6 1y lj 5y7 2u lj",
   "5y8 1z lg 5y9 2v lg 5ya 20 lj 5yb 2w lj 5yc 20 mb 5yd 2w mb 5ye 20 lk 5yf 2w lk 5yg 20 mf",
   "5yh 2w mf 5yi 20 mm 5yj 2w mm 5yk 21 mo 5yl 2x mo 5ym 5r ld 5yn 6n ld 5yo 23 ld 5yp 2z ld",
   "5yq 23 mb 5yr 2z mb 5ys 23 mp 5yt 2z mp 5yu 24 mb 5yv 30 mb 5yw 5yu lg 5yx 5yv lg 5yy 24 mp",
   "5yz 30 mp 5z0 24 ml 5z1 30 ml 5z2 25 ld 5z3 31 ld 5z4 25 lj 5z5 31 lj 5z6 25 mb 5z7 31 mb",
   "5z8 26 lj 5z9 32 lj 5za 26 mb 5zb 32 mb 5zc 26 mp 5zd 32 mp 5ze 26 ml 5zf 32 ml 5zg 5x ld",
   "5zh 6t ld 5zi 5x lk 5zj 6t lk 5zk 98 lc 5zl 99 lc 5zm 98 ld 5zn 99 ld 5zo 28 ld 5zp 34 ld",
   "5zq 28 lj 5zr 34 lj 5zs 2a lj 5zt 36 lj 5zu 2a mb 5zv 36 mb 5zw 5zu lg 5zx 5zv lg 5zy 2a mp",
   "5zz 36 mp 600 2b lj 601 37 lj 602 2b mb 603 37 mb 604 9m lj 605 9n lj 606 9s lj 607 9t lj",
   "608 602 lj 609 603 lj 60a 2c lj 60b 38 lj 60c 2c mb 60d 38 mb 60e 2c mp 60f 38 mp 60g 2c ml",
   "60h 38 ml 60i 2d mc 60j 39 mc 60k 2d mo 60l 39 mo 60m 2d ml 60n 39 ml 60o a0 ld 60p a1 ld",
   "60q a2 lk 60r a3 lk 60s 2e lf 60t 3a lf 60u 2e mb 60v 3a mb 60w 2f lc 60x 3b lc 60y 2f ld",
   "60z 3b ld 610 2f lk 611 3b lk 612 2f lj 613 3b lj 614 2f mb 615 3b mb 616 2g lj 617 3c lj",
   "618 2g lk 619 3c lk 61a 2h lj 61b 3d lj 61c 2i le 61d 3e le 61e 2i mb 61f 3e mb 61g 2i mp",
   "61h 3e mp 61i 2w mp 61j 38 lk 61k 3b lm 61l 3d lm 61n an lj 61s 1t mb 61t 2p mb 61u 1t ll",
   "61v 2p ll 61w 5e ld 61x 6a ld 61y 5e lc 61z 6a lc 620 5e ll 621 6a ll 622 5e lf 623 6a lf",
   "624 61s le 625 61t le 626 76 ld 627 77 ld 628 76 lc 629 77 lc 62a 76 ll 62b 77 ll 62c 76 lf",
   "62d 77 lf 62e 61s li 62f 61t li 62g 1x mb 62h 2t mb 62i 1x ll 62j 2t ll 62k 1x lf 62l 2t lf",
   "62m 5m ld 62n 6i ld 62o 5m lc 62p 6i lc 62q 5m ll 62r 6i ll 62s 5m lf 62t 6i lf 62u 62g le",
   "62v 62h le 62w 21 ll 62x 2x ll 62y 21 mb 62z 2x mb 630 27 mb 631 33 mb 632 27 ll 633 33 ll",
   "634 5w ld 635 6s ld 636 5w lc 637 6s lc 638 5w ll 639 6s ll 63a 5w lf 63b 6s lf 63c 630 le",
   "63d 631 le 63e bk ld 63f bl ld 63g bk lc 63h bl lc 63i bk ll 63j bl ll 63k bk lf 63l bl lf",
   "63m bk mb 63n bl mb 63o 2d mb 63p 39 mb 63q 2d ll 63r 39 ll 63s bz ld 63t c0 ld 63u bz lc",
   "63v c0 lc 63w bz ll 63x c0 ll 63y bz lf 63z c0 lf 640 bz mb 641 c0 mb 642 2h lc 643 3d lc",
   "644 2h mb 645 3d mb 646 2h ll 647 3d ll 648 2h lf 649 3d lf 64g q9 lv 64h q9 lw 64i 64g lc",
   "64j 64h lc 64k 64g ld 64l 64h ld 64m 64g n6 64n 64h n6 64o pd lv 64p pd lw 64q 64o lc 64r",
   "64p lc 64s 64o ld 64t 64p ld 64u 64o n6 64v 64p n6 64w qd lv 64x qd lw 64y 64w lc 64z 64x lc",
   "650 64w ld 651 64x ld 654 ph lv 655 ph lw 656 654 lc 657 655 lc 658 654 ld 659 655 ld 65c qf",
   "lv 65d qf lw 65e 65c lc 65f 65d lc 65g 65c ld 65h 65d ld 65i 65c n6 65j 65d n6 65k pj lv 65l",
   "pj lw 65m 65k lc 65n 65l lc 65o 65k ld 65p 65l ld 65q 65k n6 65r 65l n6 65s qh lv 65t qh lw",
   "65u 65s lc 65v 65t lc 65w 65s ld 65x 65t ld 65y 65s n6 65z 65t n6 660 pl lv 661 pl lw 662",
   "660 lc 663 661 lc 664 660 ld 665 661 ld 666 660 n6 667 661 n6 668 qn lv 669 qn lw 66a 668 lc",
   "66b 669 lc 66c 668 ld 66d 669 ld 66g pr lv 66h pr lw 66i 66g lc 66j 66h lc 66k 66g ld 66l",
   "66h ld 66o qt lv 66p qt lw 66q 66o lc 66r 66p lc 66s 66o ld 66t 66p ld 66u 66o n6 66v 66p n6",
   "66x px lw 66z 66x lc 671 66x ld 673 66x n6 674 qx lv 675 qx lw 676 674 lc 677 675 lc 678 674",
   "ld 679 675 ld 67a 674 n6 67b 675 n6 67c q1 lv 67d q1 lw 67e 67c lc 67f 67d lc 67g 67c ld 67h",
   "67d ld 67i 67c n6 67j 67d n6 67k q9 lc 67m qd lc 67o qf lc 67q qh lc 67s qn lc 67u qt lc 67w",
   "qx lc 680 64g n9 681 64h n9 682 64i n9 683 64j n9 684 64k n9 685 64l n9 686 64m n9 687 64n",
   "n9 688 64o n9 689 64p n9 68a 64q n9 68b 64r n9 68c 64s n9 68d 64t n9 68e 64u n9 68f 64v n9",
   "68g 65c n9 68h 65d n9 68i 65e n9 68j 65f n9 68k 65g n9 68l 65h n9 68m 65i n9 68n 65j n9 68o",
   "65k n9 68p 65l n9 68q 65m n9 68r 65n n9 68s 65o n9 68t 65p n9 68u 65q n9 68v 65r n9 68w 674",
   "n9 68x 675 n9 68y 676 n9 68z 677 n9 690 678 n9 691 679 n9 692 67a n9 693 67b n9 694 67c n9",
   "695 67d n9 696 67e n9 697 67f n9 698 67g n9 699 67h n9 69a 67i n9 69b 67j n9 69c q9 li 69d",
   "q9 lg 69e 67k n9 69f q9 n9 69g q4 n9 69i q9 n6 69j 69i n9 69k pd li 69l pd lg 69m pd lc 69o",
   "pd n9 69t 4o n6 69u 67o n9 69v qf n9 69w q6 n9 69y qf n6 69z 69y n9 6a0 ph lc 6a2 pj lc 6a4",
   "pj n9 6a5 69r lc 6a6 69r ld 6a7 69r n6 6a8 qh li 6a9 qh lg 6aa qy lc 6ae qh n6 6af qy n6 6ag",
   "pl li 6ah pl lg 6ai pl lc 6al 6bi lc 6am 6bi ld 6an 6bi n6 6ao qt li 6ap qt lg 6aq qz lc 6as",
   "qp lv 6at qp lw 6au qt n6 6av qz n6 6aw px li 6ax px lg 6ay px lc 6b0 pt lw 6b1 4o lc 6b6",
   "67w n9 6b7 qx n9 6b8 r2 n9 6ba qx n6 6bb 6ba n9 6bc pr lc 6be q1 lc 6bg q1 n9 6my 6mo mw 6mz",
   "6mq mw 6ni 6ms mw 6od 6og mw 6oe 6ok mw 6of 6oi mw 6pw 6pv mw 6q1 6q0 mw 6q4 6q3 mw 6qs 6qr",
   "mw 6qu 6qt mw 6rl 6rg mw 6ro 6rn mw 6rr 6rp mw 6rt 6rs mw 6sg 1p mw 6si 6sh mw 6st 6rx mw",
   "6su 1o mw 6sv 1q mw 6sw 6sk mw 6sx 6sl mw 6t0 6sy mw 6t1 6sz mw 6t4 6t2 mw 6t5 6t3 mw 6tc",
   "6t6 mw 6td 6t7 mw 6tg 6te mw 6th 6tf mw 6tk 6ti mw 6tl 6tj mw 6uk 6ua mw 6ul 6ug mw 6um 6uh",
   "mw 6un 6uj mw 6w0 6t8 mw 6w1 6t9 mw 6w2 6tt mw 6w3 6tu mw 6wa 6uq mw 6wb 6ur mw 6wc 6us mw",
   "6wd 6ut mw 9jg 9jf 9ll 9ji 9jh 9ll 9jk 9jj 9ll 9jm 9jl 9ll 9jo 9jn 9ll 9jq 9jp 9ll 9js 9jr",
   "9ll 9ju 9jt 9ll 9jw 9jv 9ll 9jy 9jx 9ll 9k0 9jz 9ll 9k2 9k1 9ll 9k5 9k4 9ll 9k7 9k6 9ll 9k9",
   "9k8 9ll 9kg 9kf 9ll 9kh 9kf 9lm 9kj 9ki 9ll 9kk 9ki 9lm 9km 9kl 9ll 9kn 9kl 9lm 9kp 9ko 9ll",
   "9kq 9ko 9lm 9ks 9kr 9ll 9kt 9kr 9lm 9lg 9ja 9ll 9lq 9lp 9ll 9m4 9m3 9ll 9m6 9m5 9ll 9m8 9m7",
   "9ll 9ma 9m9 9ll 9mc 9mb 9ll 9me 9md 9ll 9mg 9mf 9ll 9mi 9mh 9ll 9mk 9mj 9ll 9mm 9ml 9ll 9mo",
   "9mn 9ll 9mq 9mp 9ll 9mt 9ms 9ll 9mv 9mu 9ll 9mx 9mw 9ll 9n4 9n3 9ll 9n5 9n3 9lm 9n7 9n6 9ll",
   "9n8 9n6 9lm 9na 9n9 9ll 9nb 9n9 9lm 9nd 9nc 9ll 9ne 9nc 9lm 9ng 9nf 9ll 9nh 9nf 9lm 9o4 9ly",
   "9ll 9o7 9nz 9ll 9o8 9o0 9ll 9o9 9o1 9ll 9oa 9o2 9ll 9oe 9od 9ll 1fpl 1fpu lj 1fqc 1fq2 lj",
   "1hui 1huh 1hve 1huk 1huj 1hve 1huz 1hut 1hve 1hym 1hyp 1hyf 1hyn 1hyq 1hyf 1idn 1idj 1ida",
   "1ido 1idj 1idz 1if7 1if6 1ih5 1if9 1if8 1igr 1ifi 1iff 1igy 1ifl 1ifk 1ih5 1ih1 1igy 1igy",
   "1ih3 1igy 1igo 1ih4 1igy 1ih5 1inv 1int 1inu 1inw 1int 1ink 1iny 1int 1inx 1iuy 1iuw 1iun",
   "1iuz 1iux 1iun 1jjs 1jjp 1jjk 1xr5 1xr2 1xr2 1xr6 1xr2 1xrd 1xr7 1xr2 1xr3 1xr8 1xrd 1xr3",
   "1xr9 1xr2 1xr4 1xra 1xr5 1xr3 1xrb 1xr6 1xr3 1xrc 1xr5 1xr4 206g 206f 206f 206h 206b 206f",
   "206i 206h 206f"])

/-! ### Hangul -/

/-- The first syllable, and the characters before the first leading, vowel and trailing part. -/
def hangulSyllable : Nat := 0xAC00

def hangulLeading : Nat := 0x1100

def hangulVowel : Nat := 0x1161

/-- The character before the first trailing part. -/
def hangulTrailing : Nat := 0x11A7

def hangulParts? (c : Nat) : Option (List Nat) :=
  if hangulSyllable ≤ c ∧ c < hangulSyllable + 19 * 21 * 28 then
    let index := c - hangulSyllable
    let leading := hangulLeading + index / (21 * 28)
    let vowel := hangulVowel + index % (21 * 28) / 28
    let trailing := index % 28
    some ([leading, vowel] ++ (if trailing = 0 then [] else [hangulTrailing + trailing]))
  else none

/-- The syllable of two parts, or of a syllable without a trailing part and such a part. -/
def hangulCompose? (a b : Nat) : Option Nat :=
  if hangulLeading ≤ a ∧ a < hangulLeading + 19 ∧ hangulVowel ≤ b ∧ b < hangulVowel + 21 then
    some (hangulSyllable + ((a - hangulLeading) * 21 + (b - hangulVowel)) * 28)
  else if hangulSyllable ≤ a ∧ a < hangulSyllable + 19 * 21 * 28 ∧ (a - hangulSyllable) % 28 = 0 ∧
      hangulTrailing < b ∧ b < hangulTrailing + 28 then
    some (a + (b - hangulTrailing))
  else none

/-! ### Taking apart -/

/-- The parts of a character, with at most `fuel` steps from the last part to the first. -/
def partsOf (fuel : Nat) (c : Nat) : List Nat :=
  match fuel with
  | 0 => [c]
  | fuel + 1 =>
    match compositeTable.find? (fun p => p.whole == c) with
    | some p => partsOf fuel p.first ++ [p.second]
    | none => (hangulParts? c).getD [c]

def decompose (c : Nat) : List Nat := if c < 0x80 then [c] else partsOf 8 c

/-! ### Ordering marks -/

/-- Put a mark behind the marks that do not have a higher class. -/
def insertMark (m : Nat × Nat) : List (Nat × Nat) → List (Nat × Nat)
  | [] => [m]
  | x :: xs => if m.2 < x.2 then m :: x :: xs else x :: insertMark m xs

/-- Put the marks of each run in order of their classes; `marks` are those of the current run. -/
def orderMarks (marks : List (Nat × Nat)) : List Nat → List (Nat × Nat)
  | [] => marks
  | c :: cs =>
    let cls := combiningClass c
    if cls = 0 then marks ++ (c, 0) :: orderMarks [] cs
    else orderMarks (insertMark (c, cls) marks) cs

/-! ### Composing -/

def compose? (a b : Nat) : Option Nat :=
  match hangulCompose? a b with
  | some c => some c
  | none => (compositeTable.find? (fun p => p.first == a && p.second == b)).map (·.whole)

/-- Compose from a starter on: `between` are the marks, in reverse, that stay between the starter
and what comes next. -/
def composeFrom (starter : Nat) (between : List (Nat × Nat)) : List (Nat × Nat) → List Nat
  | [] => starter :: (between.reverse.map Prod.fst)
  | (c, cls) :: rest =>
    let blocked := match between with
      | [] => false
      | (_, previous) :: _ => previous == 0 || decide (cls ≤ previous)
    match (if blocked then none else compose? starter c) with
    | some whole => composeFrom whole between rest
    | none =>
      if cls = 0 then starter :: (between.reverse.map Prod.fst ++ composeFrom c [] rest)
      else composeFrom starter ((c, cls) :: between) rest

/-- Compose a sequence; the marks at its front stay. -/
def composeAll : List (Nat × Nat) → List Nat
  | [] => []
  | (c, cls) :: rest => if cls = 0 then composeFrom c [] rest else c :: composeAll rest

def composed (cs : List Char) : List Char :=
  (composeAll (orderMarks [] (cs.flatMap fun c => decompose c.toNat))).map Char.ofNat

end QuerySwarm.Unicode
