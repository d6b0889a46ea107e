/-!
# Characters beyond ASCII in names

Two tables after the rules of Unicode for names of hosts, by ranges of code points. Each row holds
where it begins and what it says of the code points from there on.
-/

namespace Proforma.Address

/-- The classes of characters as runs: the letter of a class and the number of characters, if it
is not one. The rows cover all code points from U+0080 on without a gap. -/
def classRows : List (Nat × String) :=
  [(0x80, "x33n7xnxn2inxn2x3Ln2x3nx3nL23nL7l24nl8LlLlLlLlLlLlLlLlLlLlLlLlLlLlLlLlLlLlLlLlLlLlLlL"),
   (0x12F, "lxlx2LlLl2LlLlLlx2LlLlLlLlxLlLlLlLlLlLlLlLlLlLlLlLlLlLlLlLlLlLlLlLlLlLlLlL2lLlLlxlL2"),
   (0x183, "lLlL2lL3l2L4lL2lL3l3L2lL2lLlLlL2lLl2LlL2lL3lLlL2l3Ll7x9LlLlLlLlLlLlLlLl2LlLlLlLlLlLl"),
   (0x1EA, "LlLlLl2x3LlL3lLlLlLlLlLlLlLlLlLlLlLlLlLlLlLlLlLlLlLlLlLlLlLlLlLlLlLlLlLl7L2lL2l2LlL4"),
   (0x247, "lLlLlLlLl97xLx2L3x2n2l7n14l2n6x6n2Lx3Ln9ln17s64S2sS2Ls9is32LlLlNnLlx3l3xLx6LNL3xLxL2"),
   (0x390, "lL17xL9l35L8lLlLlLlLlLlLlLlLlLlLlLlLlL3lL2nLlL2l2L51l48LlLlLlLlLlLlLlLlLlLlLlLlLlLlL"),
   (0x47D, "lLlLl2s7LlLlLlLlLlLlLlLlLlLlLlLlLlLlLlLlLlLlLlLlLlLlLlLlLlLlLlL2lLlLlLlLlLlLl2LlLlLl"),
   (0x4D6, "LlLlLlLlLlLlLlLlLlLlLlLlLlLlLlLlLlLlLlLlLlLlLlLlLlLlLlLlLlLlLlLlLlLlLlLlLlLlLlLlLlLl"),
   (0x52A, "LlLlLlxL38x2l46Ll2nx2n3xs45rsrs2rs2rsx8r27x4r6x17n2rn2rnrn2s11rxr3drj4djdjd5j4d13rd7"),
   (0x648, "jd2s21a10na2rd2sj3rR4d15j18d38jd2j9djdjd2j2rjs7xns6r2s2ns4j2e10d3r2dr14x2jsd3j5d4jd9"),
   (0x728, "jdjdjd2js27x2jd11j3d15j2d4jdj2d3j2d6r38s11rx14r10d33s9r2n4rx2sr24s4rs9rs3rs5x2r15xj"),
   (0x841, "d5j2djd10jdj3s3x2rxdrd4rjdj2x5j19r3dr2d5jdx7ts8d10j3rjd2j2d6jd15rs24xs32cl54scslc3s8"),
   (0x949, "c4vc2ls7L8l2s2l29sc2xl8x2l2x2l22xl7xlx3l4x2slc3s4x2c2x2c2vlx8cx4L2xLl2s2x2l12n2l7nl2"),
   (0x9FE, "sx2s2cxl6x4l2x2l22xl7xlLxlLxl2x2sxc3s2x4s2x2s2vx3sx7L3lxLx7l10s2l3slx10s2cxl9xl3xl22"),
   (0xAA9, "xl7xl2xl5x2slc3s5xs2cxc2vx2lx15l2s2x2l11nx7ls6xsc2xl8x2l2x2l22xl7xl2xl5x2slcscs4x2c2"),
   (0xB49, "x2c2vx7s2cx4L2xl3s2x2l18x10slxl6x3l3xl4x3l2xlxl2x3l2x3l3x3l12x4c2sc2x3c3xc3vx2lx6c"),
   (0xBD8, "x14l13n8x5sc3sl8xl3xl23xl16x2sls3c4xs3xs3vx7s2xl3xl2x2l2s2x2l10x7ln7l2sc2l9xl3xl23x"),
   (0xCAA, "l10xl5x2slczc5xzc2xc2svx7c2x5l3xl2s2x2l10xl2cx12s2c2l9xl3xl41v2lc3s4xc3xc3vl2x4l3c"),
   (0xD58, "l10s2x2l26xsc2xl18x3l24xl9xlx2l7x3vx4c3s3xsxc8x6l10x2c2lx12l48slCs6vx4nl7s8l13x37l2x"),
   (0xE84, "lxl5xl24xlxl10slCs6vs2lx2l5xlxs7xl10x2L2l2x32l12Ll11s2l27slslsn4c2l3Ll4xl4Ll4Ll4Ll4L"),
   (0xF5D, "l12Ll3x4s2SsS5s5csSs2vls2l5s6Ss4xs4Ss4Ss4Ss4Ss12Ss3xl8sl6xl13x37l43c2s4cs6cv2c2s2l23"),
   (0x1056, "c2s2l4s3lc3l2c7l3s4l13sc2s2c6slcl10c3sl2L38xLx5Lx2l44Ll98i2l232xl4x2l7xlxl4x2l41xl4"),
   (0x128E, "x2l33xl4x2l7xlxl4x2l15xl57xl4x2l67x2s3l29x3l16n10x6l86x2L6x2nl639xl26n2x3l89x7l18s2"),
   (0x1714, "vyx9l19s2yl2x9l18s2x12l13xl3xs2x12l52i2cs7c8sc2s9vsl7nlsx2l10x6n10x6n7mn3i5l10x6f89"),
   (0x1879, "x7l5s2f34sfx5l70x10l31xs3c4s2c3x4c2sc6s3x4nx3n2l40x2l5x11l44x4l26x6l11x3n34l23s2c2s"),
   (0x1A1C, "x2l55cscs7xvcsc2s8c6s10x2sl10x6l10x6l14x2s31b15x2b12x20s4cl47scs5csc5scyl8xl29s9l12"),
   (0x1B80, "s2cl30cs4c2s2yvs2l56scs2c3scs3y2x8l40c8s8c2s2x3l15x3l51L10lx5L43x2L3l8x8s3ls13cs7l4"),
   (0x1CED, "sl6sl2cs2lx5l44xLxlx2Lx8lxLx6L3x3L3xlx2LxL3x3L2xL6x4L5l13Ll34LxL3xL26xL4s64LlLlLlLl"),
   (0x1E08, "LlLlLlLlLlLlLlLlLlLlLlLlLlLlLlLlLlLlLlLlLlLlLlLlLlLlLlLlLlLlLlLlLlLlLlLlLlLlLlLlLlL"),
   (0x1E5B, "lLlLlLlLlLlLlLlLlLlLlLlLlLlLlLlLlLlLlLlLlLlLlLlLlLlLlLlLlLl5xLl2LlLlLlLlLlLlLlLlLlL"),
   (0x1EB1, "lLlLlLlLlLlLlLlLlLlLlLlLlLlLlLlLlLlLlLlLlLlLlLlLlLlLlLlLlLlLlLlLlLlLlLlLlLlLlLl9L8"),
   (0x1F10, "l6x2L6x2l8L8l8L8l6x2L6x2l8xLxLxLxLl8L8lLlLlLlLlLlLlLx2L48l2L3xlL6xLx3L3xlL6x3l3Lx2"),
   (0x1FD6, "l2L4x4l3Ll4L5x5L3xlL6x14in2x2nNn5xn12x3nx8n3N2nN2n4xnxn8x3n13Nn7xi5x5i6x11Nx15Nx8L"),
   (0x2095, "x11n8xn24lx14s33x19nx2Lnx6Lx4nx2n2x5n2x3nxnLnxnxLx2nx3Lx2R4xnxL4Nn4x5n4l2x48l3Ll5x"),
   (0x218A, "n2x4n156N2nN2n248N2n11l69n26ln145l3x22n11x160n449ln339l256n268Nn103x3n101Nn151x2n32"),
   (0x2B96, "ln105L48l48LlL3l2LlLlLlL4lLl2Ll6x2L3lLlLlLlLlLlLlLlLlLlLlLlLlLlLlLlLlLlLlLlLlLlLlLl"),
   (0x2CB0, "LlLlLlLlLlLlLlLlLlLlLlLlLlLlLlLlLlLlLlLlLlLlLlLlLlLl2n6LlLls3Llx5n7l38xlx5lx2l56x7L"),
   (0x2D70, "lx14vl23x9l7xl7xl7xl7xl7xl7xl7xl7xs32n94x34n26xn4Ln83Lx12L214x43nxn2l3n25l9s4c2nl5N"),
   (0x3037, "nL3l2n3xl86x2s2x2l2Lnl90nl3Lx5l43xL51iL42xl2L14l32n36l2x10l16x68L4l8x16L31lL49x31"),
   (0x32D0, "L136x35L5x128l6592n64l22157x3n55x9l317n3l28x20LlLlLlLlLlLlLlLlLlLlLlLlLlLlLlLlLlLlL"),
   (0xA665, "lLlLlLlLl2s4ns10n2LlLlLlLlLlLlLlLlLlLlLlLlLlLlL2s2l80s2l6x8n34LlLlLlLlLlLlLl3LlLlLl"),
   (0xA738, "LlLlLlLlLlLlLlLlLlLlLlLlLlLlLlLlLlLlLlLlLlLlLlLlLlLlLlLlLl8LlLlL2lLlLlLlLlnl2LlLl2L"),
   (0xA791, "lLl3LlLlLlLlLlLlLlLlLlLlL5lL5lLlLlLlLlLlLlLlL4lLlL2lLlLlLlLlLlLlLlLx24Ll2L2l8sl3vl4"),
   (0xA80B, "sl23c2s2cn4vx3l8n2x6f50gln4x8c2l50c16vsx8l12x6s18l13sl38s8l25s11cyx11l30x3s3cl47sc2"),
   (0xA9B6, "s4c2s2c2yl13xl11x4l7sl25xl41s6c2s2c2s2x9l3sl8scx2l10x2l31cscl50sls3l2s2l5s2lslx24"),
   (0xAADB, "l16cs2c2l5cvx10l6x2l6x2l6x9l7xl7xl44L4l9Ln2x4L80l35c2sc2sc2lcvx2l10x6l11172x12l23x4"),
   (0xD7CB, "l49x8452L270l2LlLl2L10lLlLl2L2l3L68x2L106x57L5x5TsTR9xT13xT5xTxT2xT2xT9RJ2D48J12D22"),
   (0xFBA4, "J2D8J4r33D4J6RJ6D6J12D65JD35T3x6J2D4J2D4J2D4J2D8JD7JDJ2D4TJ2D70TD24T3D24J4D24J4D15"),
   (0xFD3C, "T2n18D64r2D54r7nx32J2DJ2D5x2Dn3i16xNx5N2x7s16xN2x6N12n2x10Nx6Nx4N2x18Txrx3TxTxTxTxT"),
   (0xFE80, "RJ8D4J2D4J2D20J8D60J2D6J8x2ix95N2xN4L56S2iL30x3L6x2L6x2L6x2L3x3N3xN3xN7x17l12xl26x"),
   (0x10028, "l19xl2xl15x2l14x34l123x5lnlx4l45x3l9n77l2xn13x3nx47l45sx130l29x3l49x15se27x4l36x9"),
   (0x1032D, "l30x5l38s5x5l30xl37x4l14x42L40l118x2l10x6L36x4l36x4l40x8l52x11lL11xL15xL7xL2xl11x"),
   (0x105A3, "l15xl7xl2x3l52x12l311x9l22x10l8x24lL5xL30xL11xL9x69r6x2rxr44xr2x3rx2r23xr72x8r9x48"),
   (0x108E0, "r19xr2x5r33x3nr26x5r27x38r56x4r20x2r47s3xs2x5s4r4xr3xr29x2s3x4vr9x7r9x7r64x32d5jrj"),
   (0x10AC8, "rj2r2kj5d4kd5jd3jr2js2x4d4jr7x9r54x3n7r22x2r27x5r8djdj3d3jd2jdj2djx7r4x12j4d2rx80"),
   (0x10C00, "r73x55R51x13r51x7r6kd33jds4x8a10x6r16R22x3t5r24x8r2x208a31xr42xs2rx2r2x16jd2rd2x8"),
   (0x10ED0, "r9x33t3s3r40x8d3jd17rs11d3jr5x22d4j2d12s4r4x38drd2j3rdj2d2jd2rdj2dr4jdkx20r23x9csc"),
   (0x11003, "l53s14vl7x4n20l10vl2s2lx9vs2cl45c3s4c2vsl2xl4sx13l25x7l10x6s3l36s5cs6v2xl15c2lx8"),
   (0x11150, "l35sl3x9s2cl48c3s9cyl8s4lcsl16xl20x11l18xl25c3s3c2sys2l6sl2sx62l7xlxl4xl15xl11x6"),
   (0x112B0, "l47sc3s7vx5l10x6s2c2xl8x2l2x2l22xl7xl2xl5xs2lc2sc4x2c2x2c2yx2lx6cx5l5c2x2s7x3s5x11"),
   (0x11380, "l10xlx2lxl38xl4b6xlx2lxl4xl2blblbl3xl2x8b2x29l53c3s8c2vs2csl21xlsl3x30l48c3s6csc4"),
   (0x114BF, "s2cvsl4x8l10x166l47c3s4x2c4s2cvsl27s2x34l48c3s8c2scvsl4x11l10x6n13x19l43scsc2s6ys"),
   (0x116B8, "l2x6l10x6l20x28l27x2swsc2s4cs4vx4l23x185l44c3s9cvslx100L32l51x12l8x2lx2l8xl2xl24c6"),
   (0x11936, "xc2x2s2yvlclcsl3x9l10x70l8x2l39c3s4x2s2c4vl3cx27ls6z2s2l40svs4cls4l8vx8ls6c2s3l46"),
   (0x11A8A, "s13csvl9x13l73x7l10x86blb3lblx88l34x14l10x6l9xl37cs7xs6chl6x10l29x3l32x2s22xcs7cs2"),
   (0x11CB4, "cs2x73l7xl2xl38s6x3sxs2xs5v2lsx8l10x6l6xl2xl32c5xs2xc2scvlx7l10x6l44x4l10x246l19s2"),
   (0x11EF5, "c2l2x7s2lcl13xl34c2s5x3c2syvl23bx85lx15l21n29x13l923x102l111xl5x11l196x2636l99x13"),
   (0x13000, "l1072x16sl6s15x10l3995x5l583x6841l30b12l3b3l10x1734l569x7l31xl10x4l81xl10x6l30x2s5"),
   (0x16AF5, "lx10l48s7l15x10l10xl7xl21x5l19x432l58x198L32l59x5L25x2l25x44l75x4slc55x7s4l13x64l2"),
   (0x16FE2, "nlsx11c2l5x9l7382x41l32x97l115x8701l4xl7xl2xl291x15lx29l3x2lx14l4x8l396x2308l107x5"),
   (0x1BC70, "l13x3l9x7l10x2ls2li4x3932l214x36l3x3l436x6l23x15l17x15s46x2s23x9l116x60l246x10l39"),
   (0x1D127, "x2l53L7c2s3l3c6i8s8l2s7l30s4l13L6l40n2x21n66s3nx122l20x12l20x12n87x9l25x811L2x2L25"),
   (0x1D6C1, "NL25NL31NL25NL31NL25NL31NL25NL31NL25NL8x52l512s55l4s50l8sl14sl7x15s5xs15x1104l31x6"),
   (0x1DF25, "l6x213s7xs17x2s7xs2xs5x5L62x33sx112l45x3s7l7x2l10x4l2x320l30sx17l44s4l10x5nx464l28"),
   (0x1E4EC, "s4l10x214l30b2l11x4lx192l31xl3bl2bl7b2l5bx8l2x224l7xl4xl2xl15xr197x2r9s7x41D34d34"),
   (0x1E944, "s7tx4r10x4r2x785r68x76r61x194JD2JxJ2D12JD4JD7xD2xDx2DxD10xD4xDxDx6Dx4DxDxDxD3xD2xD"),
   (0x1EE55, "x2DxDxDxDxDxD2xDx2D4xD7xD4xD4xDxJD2JDJ2D3xD8JD4JD3x5D2JxJ2D3xD8JD4JD3x52n2x270n44"),
   (0x1F02C, "x4n100x12n15x2n15xn15xn37x21n5x31nx32l26x3n3l32xl28nx56l26L3x13L44x4N9x7L2x14n6"),
   (0x1F266, "x154n984lx3n17x3n13x3n119l4n95x6n12x4nx15n12x4n56x8n10x6n40x8n30x2n2l10x4l2x14l9"),
   (0x1F8D9, "x39n340l4x8n14x2n13x3n9l2x3l2n46ln7lxlx4ln14lx2ln9l2x4ln9x7n147xn55l37x10lx1029"),
   (0x20000, "l42720x32l4382x2l5774x2l7473x15l622x2466L542x1506l4939x5l8490x707718i240x196112")]

/-- The characters that stand for a text with ASCII in it. A row lists the texts of consecutive
characters; `a-z` is one character for each letter, and so with other bounds. -/
def imageRows : List (Nat × String) :=
  [(0xAA, "a"),
   (0xB2, "2 3"),
   (0xB9, "1 o"),
   (0xBC, "1⁄4 1⁄2 3⁄4"),
   (0x130, "i̇"),
   (0x132, "ij ij"),
   (0x13F, "l· l·"),
   (0x149, "ʼn"),
   (0x17F, "s"),
   (0x1C4, "dž dž dž lj lj lj nj nj nj"),
   (0x1F1, "dz dz dz"),
   (0x2B0, "h"),
   (0x2B2, "j r"),
   (0x2B7, "w y"),
   (0x2E1, "l s x"),
   (0x37E, ";"),
   (0x1D2C, "a"),
   (0x1D2E, "b"),
   (0x1D30, "d e"),
   (0x1D33, "g-n"),
   (0x1D3C, "o"),
   (0x1D3E, "p r t u w a"),
   (0x1D47, "b d e"),
   (0x1D4D, "g"),
   (0x1D4F, "k m"),
   (0x1D52, "o"),
   (0x1D56, "p t u"),
   (0x1D5B, "v"),
   (0x1D62, "i r u v"),
   (0x1D9C, "c"),
   (0x1DA0, "f"),
   (0x1DBB, "z"),
   (0x1E9A, "aʾ"),
   (0x203C, "!!"),
   (0x2070, "0 i"),
   (0x2074, "4-9 +"),
   (0x207C, "= ( ) n 0-9 +"),
   (0x208C, "= ( )"),
   (0x2090, "a e o x"),
   (0x2095, "h k-n p s t"),
   (0x20A8, "rs"),
   (0x2102, "c °c"),
   (0x2109, "°f g h h h h"),
   (0x2110, "i i l l"),
   (0x2115, "n no"),
   (0x2119, "p-r r r"),
   (0x2120, "sm tel tm"),
   (0x2124, "z"),
   (0x2128, "z"),
   (0x212A, "k"),
   (0x212C, "b c"),
   (0x212F, "e e f"),
   (0x2133, "m o"),
   (0x2139, "i"),
   (0x213B, "fax"),
   (0x2145, "d d e i j"),
   (0x2150, "1⁄7 1⁄9 1⁄10 1⁄3 2⁄3 1⁄5 2⁄5 3⁄5 4⁄5 1⁄6 5⁄6 1⁄8 3⁄8 5⁄8 7⁄8 1⁄ i ii iii"),
   (0x2163, "iv v vi vii viii ix x xi xii l c d m i ii iii iv v vi vii viii ix x xi"),
   (0x217B, "xii l c d m"),
   (0x2189, "0⁄3"),
   (0x2460, "1-9 10 11 12 13 14 15 16 17 18 19 20 (1) (2) (3) (4) (5) (6) (7) (8) (9)"),
   (0x247D, "(10) (11) (12) (13) (14) (15) (16) (17) (18) (19) (20)"),
   (0x249C, "(a) (b) (c) (d) (e) (f) (g) (h) (i) (j) (k) (l) (m) (n) (o) (p) (q) (r)"),
   (0x24AE, "(s) (t) (u) (v) (w) (x) (y) (z) a-z a-z 0"),
   (0x2A75, "== ==="),
   (0x2C7C, "j v"),
   (0x3002, "."),
   (0x3200, "(ᄀ) (ᄂ) (ᄃ) (ᄅ) (ᄆ) (ᄇ) (ᄉ) (ᄋ) (ᄌ) (ᄎ) (ᄏ) (ᄐ) (ᄑ) (ᄒ) (가) (나) (다) (라)"),
   (0x3212, "(마) (바) (사) (아) (자) (차) (카) (타) (파) (하) (주) (오전) (오후)"),
   (0x3220, "(一) (二) (三) (四) (五) (六) (七) (八) (九) (十) (月) (火) (水) (木) (金) (土) (日) (株)"),
   (0x3232, "(有) (社) (名) (特) (財) (祝) (労) (代) (呼) (学) (監) (企) (資) (協) (祭) (休) (自) (至)"),
   (0x3250, "pte 21 22 23 24 25 26 27 28 29 30 31 32 33 34 35"),
   (0x32B1, "36 37 38 39 40 41 42 43 44 45 46 47 48 49 50 1月 2月 3月 4月 5月 6月 7月 8月 9月"),
   (0x32C9, "10月 11月 12月 hg erg ev ltd"),
   (0x3358, "0点 1点 2点 3点 4点 5点 6点 7点 8点 9点 10点 11点 12点 13点 14点 15点 16点 17点 18点 19点"),
   (0x336C, "20点 21点 22点 23点 24点 hpa da au bar ov pc dm dm2 dm3 iu"),
   (0x3380, "pa na μa ma ka kb mb gb cal kcal pf nf μf μg mg kg hz khz mhz ghz thz μl"),
   (0x3396, "ml dl kl fm nm μm mm cm km mm2 cm2 m2 km2 mm3 cm3 m3 km3 m∕s m∕s2 pa kpa"),
   (0x33AB, "mpa gpa rad rad∕s rad∕s2 ps ns μs ms pv nv μv mv kv mv pw nw μw mw kw mw"),
   (0x33C0, "kω mω"),
   (0x33C3, "bq cc cd c∕kg"),
   (0x33C8, "db gy ha hp in kk km kt lm ln log lx mb mil mol ph"),
   (0x33D9, "ppm pr sr sv wb v∕m a∕m 1日 2日 3日 4日 5日 6日 7日 8日 9日 10日 11日 12日 13日 14日"),
   (0x33EE, "15日 16日 17日 18日 19日 20日 21日 22日 23日 24日 25日 26日 27日 28日 29日 30日 31日 gal"),
   (0xA7F1, "s c f q"),
   (0xFB00, "ff fi fl ffi ffl st st"),
   (0xFB29, "+"),
   (0xFE10, ","),
   (0xFE14, "; !"),
   (0xFE33, "_ _ ( )"),
   (0xFE4D, "_ _ _ ,"),
   (0xFE54, ";"),
   (0xFE57, "!"),
   (0xFE59, "( )"),
   (0xFE60, "& * + -"),
   (0xFE66, "="),
   (0xFE69, "$"),
   (0xFF01, "!"),
   (0xFF04, "$"),
   (0xFF06, "&-."),
   (0xFF10, "0-9"),
   (0xFF1B, ";"),
   (0xFF1D, "="),
   (0xFF21, "a-z"),
   (0xFF3F, "_"),
   (0xFF41, "a-z"),
   (0xFF5E, "~"),
   (0xFF61, "."),
   (0x107A5, "q"),
   (0x1CCD6, "a-z 0-9"),
   (0x1D400, "a-z a-z a-z a-g"),
   (0x1D456, "i-z a-z a-z a"),
   (0x1D49E, "c d"),
   (0x1D4A2, "g"),
   (0x1D4A5, "j k"),
   (0x1D4A9, "n-q"),
   (0x1D4AE, "s-z a-d"),
   (0x1D4BB, "f"),
   (0x1D4BD, "h-n"),
   (0x1D4C5, "p-z a-z a-z a b"),
   (0x1D507, "d-g"),
   (0x1D50D, "j-q"),
   (0x1D516, "s-y"),
   (0x1D51E, "a-z a b"),
   (0x1D53B, "d-g"),
   (0x1D540, "i-m"),
   (0x1D546, "o"),
   (0x1D54A, "s-y"),
   (0x1D552, "a-z a-z a-z a-z a-z a-z a-z a-z a-z a-z a-z a-z a-z"),
   (0x1D7CE, "0-9 0-9 0-9 0-9 0-9"),
   (0x1F101, "0, 1, 2, 3, 4, 5, 6, 7, 8, 9,"),
   (0x1F110, "(a) (b) (c) (d) (e) (f) (g) (h) (i) (j) (k) (l) (m) (n) (o) (p) (q) (r)"),
   (0x1F122, "(s) (t) (u) (v) (w) (x) (y) (z) 〔s〕 c r cd wz"),
   (0x1F130, "a-z hv mv sd ss ppv wc"),
   (0x1F16A, "mc md mr"),
   (0x1F190, "dj"),
   (0x1FBF0, "0-9")]

end Proforma.Address
