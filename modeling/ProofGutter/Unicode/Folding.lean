import ProofGutter.Unicode.Decomposition

/-!
# Folding of names

How a character is written in a domain name (compatibility mapping of Unicode 17 with the letters,
signs and ideographs that Unicode 18 adds, without the deviations of older names): most stay, some
fall together with others, some are dropped, some are refused. Characters that only the normal form
changes are not listed.
-/

namespace ProofGutter.Unicode

/-- What becomes of the characters of a run. -/
inductive Folding where
  /-- They may not occur. -/
  | refuse
  /-- Each is replaced by a row of characters. -/
  | replace (chars : List Char)
  /-- Each is replaced by the one so many places behind. -/
  | up (places : Nat)
  /-- Each is replaced by the one so many places before. -/
  | down (places : Nat)
  /-- Every second one, from the first on, is moved so; the others stay. -/
  | everySecond (move : Folding)

/-- Reads what becomes of a run: `!` refuses, `=` stands before a row of characters, `+` and `~`
before a number of places, and `/` restricts the rule to every second character. -/
def Folding.read? : List Char → Option Folding
  | ['!'] => some .refuse
  | ['='] => some (.replace [])
  | '+' :: digits => (Text.Digits.number? 16 digits).map .up
  | '~' :: digits => (Text.Digits.number? 16 digits).map .down
  | '/' :: rest => (read? rest).map .everySecond
  | rest => (parts? rest).map .replace

/-- What becomes of a character in a run that starts at `first`. -/
def Folding.image? (first : Nat) (c : Char) : Folding → Option (List Char)
  | .refuse => none
  | .replace chars => some chars
  | .up places => some [.ofNat (c.toNat + places)]
  | .down places => some [.ofNat (c.toNat - places)]
  | .everySecond move => if (c.toNat - first) % 2 = 0 then image? first c move else some [c]

/-- The rules for the characters that do not stay. -/
def foldings : Runs Folding := .ofText Folding.read? "
41-5a+20 80-9f! a0~80 a8=20,308 aa~49 ad= af=20,304 b2-b3~80 b4=20,301 b5+307 b8=20,327 b9~88
ba~4b bc=31,2044,34 bd=31,2044,32 be=33,2044,34 c0-d6+20 d8-de+20 100-12e/+1 130=69,307
132=69,6a 133=69,6a 134-136/+1 139-13d/+1 13f=6c,b7 140=6c,b7 141-147/+1 149=2bc,6e 14a-176/+1
178~79 179-17d/+1 17f~10c 181+d2 182-184/+1 186+ce 187+1 189-18a+cd 18b+1 18e+4f 18f+ca 190+cb
191+1 193+cd 194+cf 196+d3 197+d1 198+1 19c+d3 19d+d5 19f+d6 1a0-1a4/+1 1a6+da 1a7+1 1a9+da
1ac+1 1ae+da 1af+1 1b1-1b2+d9 1b3-1b5/+1 1b7+db 1b8+1 1bc+1 1c4=64,17e 1c5=64,17e 1c6=64,17e
1c7=6c,6a 1c8=6c,6a 1c9=6c,6a 1ca=6e,6a 1cb=6e,6a 1cc=6e,6a 1cd-1db/+1 1de-1ee/+1 1f1=64,7a
1f2=64,7a 1f3=64,7a 1f4+1 1f6~61 1f7~38 1f8-21e/+1 220~82 222-232/+1 23a+2a2b 23b+1 23d~a3
23e+2a28 241+1 243~c3 244+45 245+47 246-24e/+1 2b0~248 2b1~4b 2b2~248 2b3~241 2b4~3b 2b5~3a
2b6~35 2b7~240 2b8~23f 2d8=20,306 2d9=20,307 2da=20,30a 2db=20,328 2dc=20,303 2dd=20,30b 2e0~7d
2e1~275 2e2~26f 2e3~26b 2e4~4f 345+74 34f= 370-372/+1 376+1 378-379! 37a=20,3b9 37f+74 380-383!
384=20,301 385=20,308,301 386+26 388-38a+25 38b! 38c+40 38d! 38e-38f+3f 391-3a1+20 3a2!
3a3-3ab+20 3cf+8 3d0~1e 3d1~19 3d2~d 3d3~6 3d4~9 3d5~f 3d6~16 3d8-3ee/+1 3f0~36 3f1~30 3f2~2f
3f4~3c 3f5~40 3f7+1 3f9~36 3fa+1 3fd-3ff~82 400-40f+50 410-42f+20 460-480/+1 48a-4be/+1 4c0+f
4c1-4cd/+1 4d0-52e/+1 530! 531-556+30 557! 558+f 587=565,582 58b~20 58c! 590! 5c9-5cf! 5eb-5ee!
5f5-605! 61c! 675=627,674 676=648,674 677=6c7,674 678=64a,674 6dd! 70e-70f! 74b-74c! 7b2-7bf!
7fb-7fc! 82e-82f! 83f! 85c-85d! 85f! 86b-86f! 890-896! 8e2! 984! 98d-98e! 991-992! 9a9! 9b1!
9b3-9b5! 9ba-9bb! 9c5-9c6! 9c9-9ca! 9cf-9d6! 9d8-9db! 9de! 9e4-9e5! 9ff-a00! a04! a0b-a0e!
a11-a12! a29! a31! a34! a37! a3a-a3b! a3d! a43-a46! a49-a4a! a4e-a50! a52-a58! a5d! a5f-a65!
a77-a80! a84! a8e! a92! aa9! ab1! ab4! aba-abb! ac6! aca! ace-acf! ad1-adf! ae4-ae5! af2-af8!
b00! b04! b0d-b0e! b11-b12! b29! b31! b34! b3a-b3b! b45-b46! b49-b4a! b4e-b52! b58-b5b! b5e!
b64-b65! b78-b81! b84! b8b-b8d! b91! b96-b98! b9b! b9d! ba0-ba2! ba5-ba7! bab-bad! bba-bbd!
bc3-bc5! bc9! bce-bcf! bd1-bd6! bd8-be5! bfb-bff! c0d! c11! c29! c3a-c3b! c45! c49! c4e-c54!
c57! c5b! c5e-c5f! c64-c65! c70-c76! c8d! c91! ca9! cb4! cba-cbb! cc5! cc9! cce-cd4! cd7-cdb!
cdf! ce4-ce5! cf0! cf4-cff! d0d! d11! d45! d49! d50-d53! d64-d65! d80! d84! d97-d99! db2! dbc!
dbe-dbf! dc7-dc9! dcb-dce! dd5! dd7! de0-de5! df0-df1! df5-e00! e33=e4d,e32 e3b-e3e! e5c-e80!
e83! e85! e8b! ea4! ea6! eb3=ecd,eb2 ebe-ebf! ec5! ec7! ecf! eda-edb! edc=eab,e99 edd=eab,ea1
ee0-eff! f0c~1 f48! f6d-f70! f77=fb2,f71,f80 f79=fb3,f71,f80 f98! fbd! fcd! fdb-fff!
10a0-10c5+1c60 10c6! 10c7+1c60 10c8-10cc! 10cd+1c60 10ce-10cf! 10fc~20 115f-1160= 1249!
124e-124f! 1257! 1259! 125e-125f! 1289! 128e-128f! 12b1! 12b6-12b7! 12bf! 12c1! 12c6-12c7! 12d7!
1311! 1316-1317! 135b-135c! 137d-137f! 139a-139f! 13f6-13f7! 13f8-13fd~8 13fe-13ff! 1680!
169d-169f! 16f9-16ff! 1716-171e! 1737-173f! 1754-175f! 176d! 1771! 1774-177f! 17b4-17b5=
17de-17df! 17ea-17ef! 17fa-17ff! 180b-180f= 181a-181f! 1879-187f! 18ab-18af! 18f6-18ff! 191f!
192c-192f! 193c-193f! 1941-1943! 196e-196f! 1975-197f! 19ac-19af! 19ca-19cf! 19db-19dd!
1a1c-1a1d! 1a5f! 1a7d-1a7e! 1a8a-1a8f! 1a9a-1a9f! 1aae-1aaf! 1af1-1aff! 1b4d! 1bf4-1bfb!
1c38-1c3a! 1c4a-1c4c! 1c80~184e 1c81~184d 1c82~1844 1c83-1c84~1842 1c85~1843 1c86~183c 1c87~1824
1c88+89c3 1c89+1 1c8b-1c8f! 1c90-1cba~bc0 1cbb-1cbc! 1cbd-1cbf~bc0 1cc8-1ccf! 1cfb-1cff!
1d2c~1ccb 1d2d~1c47 1d2e-1d30/~1ccc 1d31~1ccc 1d32~1b55 1d33-1d3a~1ccc 1d3c~1ccd 1d3d~1b1a
1d3e~1cce 1d3f~1ccd 1d40-1d41~1ccc 1d42~1ccb 1d43~1ce2 1d44-1d45~1af4 1d46~44 1d47~1ce5
1d48-1d49~1ce4 1d4a~1af1 1d4b-1d4c~1af0 1d4d~1ce6 1d4f~1ce4 1d50~1ce3 1d51~1c06 1d52~1ce3
1d53~1aff 1d54-1d55~3e 1d56~1ce6 1d57-1d58~1ce3 1d59~3c 1d5a~1aeb 1d5b~1ce5 1d5c~37
1d5d-1d5f~19ab 1d60-1d61~199a 1d62~1cf9 1d63~1cf1 1d64-1d65~1cef 1d66-1d67~19b4 1d68~19a7
1d69-1d6a~19a3 1d78~193b 1d9b~1b49 1d9c~1d39 1d9d~1b48 1d9e~1cae 1d9f~1b43 1da0~1d3a 1da1~1b42
1da2~1b41 1da3~1b3e 1da4-1da6~1b3c 1da7~2c 1da8~1b0b 1da9~1b3c 1daa~25 1dab~1b0c 1dac~1b3b
1dad~1b3d 1dae-1db1~1b3c 1db2~1b3a 1db3-1db4~1b31 1db5~1c0a 1db6-1db7~1b2d 1db8~9c
1db9-1dba~1b2e 1dbb~1d41 1dbc-1dbe~1b2c 1dbf~1a07 1e00-1e94/+1 1e9a=61,2be 1e9b~3a 1e9e~1dbf
1ea0-1efe/+1 1f08-1f0f~8 1f16-1f17! 1f18-1f1d~8 1f1e-1f1f! 1f28-1f2f~8 1f38-1f3f~8 1f46-1f47!
1f48-1f4d~8 1f4e-1f4f! 1f58! 1f59~8 1f5a! 1f5b~8 1f5c! 1f5d~8 1f5e! 1f5f~8 1f68-1f6f~8
1f7e-1f7f! 1f80=1f00,3b9 1f81=1f01,3b9 1f82=1f02,3b9 1f83=1f03,3b9 1f84=1f04,3b9 1f85=1f05,3b9
1f86=1f06,3b9 1f87=1f07,3b9 1f88=1f00,3b9 1f89=1f01,3b9 1f8a=1f02,3b9 1f8b=1f03,3b9
1f8c=1f04,3b9 1f8d=1f05,3b9 1f8e=1f06,3b9 1f8f=1f07,3b9 1f90=1f20,3b9 1f91=1f21,3b9
1f92=1f22,3b9 1f93=1f23,3b9 1f94=1f24,3b9 1f95=1f25,3b9 1f96=1f26,3b9 1f97=1f27,3b9
1f98=1f20,3b9 1f99=1f21,3b9 1f9a=1f22,3b9 1f9b=1f23,3b9 1f9c=1f24,3b9 1f9d=1f25,3b9
1f9e=1f26,3b9 1f9f=1f27,3b9 1fa0=1f60,3b9 1fa1=1f61,3b9 1fa2=1f62,3b9 1fa3=1f63,3b9
1fa4=1f64,3b9 1fa5=1f65,3b9 1fa6=1f66,3b9 1fa7=1f67,3b9 1fa8=1f60,3b9 1fa9=1f61,3b9
1faa=1f62,3b9 1fab=1f63,3b9 1fac=1f64,3b9 1fad=1f65,3b9 1fae=1f66,3b9 1faf=1f67,3b9
1fb2=1f70,3b9 1fb3=3b1,3b9 1fb4=3ac,3b9 1fb5! 1fb7=1fb6,3b9 1fb8-1fb9~8 1fba~4a 1fbb~1c0f
1fbc=3b1,3b9 1fbd=20,313 1fbf=20,313 1fc0=20,342 1fc1=20,308,342 1fc2=1f74,3b9 1fc3=3b7,3b9
1fc4=3ae,3b9 1fc5! 1fc7=1fc6,3b9 1fc8~56 1fc9~1c1c 1fca~56 1fcb~1c1d 1fcc=3b7,3b9
1fcd=20,313,300 1fce=20,313,301 1fcf=20,313,342 1fd4-1fd5! 1fd8-1fd9~8 1fda~64 1fdb~1c2c 1fdc!
1fdd=20,314,300 1fde=20,314,301 1fdf=20,314,342 1fe8-1fe9~8 1fea~70 1feb~1c1e 1fec~7
1fed=20,308,300 1fee=20,308,301 1ff0-1ff1! 1ff2=1f7c,3b9 1ff3=3c9,3b9 1ff4=3ce,3b9 1ff5!
1ff7=1ff6,3b9 1ff8~80 1ff9~1c2d 1ffa~7e 1ffb~1c2d 1ffc=3c9,3b9 1ffd=20,301 1ffe=20,314 1fff!
2000~1fe0 2001~1fe1 2002~1fe2 2003~1fe3 2004~1fe4 2005~1fe5 2006~1fe6 2007~1fe7 2008~1fe8
2009~1fe9 200a~1fea 200b= 200e-200f! 2011~1 2017=20,333 2024-2026! 2028-202e! 202f~200f
2033=2032,2032 2034=2032,2032,2032 2036=2035,2035 2037=2035,2035,2035 203c=21,21 203e=20,305
2047=3f,3f 2048=3f,21 2049=21,3f 2057=2032,2032,2032,2032 205f~203f 2060-2064= 2065-2069!
206a-206f= 2070~2040 2071~2008 2072-2073! 2074-2079~2040 207a~204f 207b+197 207c~203f
207d-207e~2055 207f~2011 2080-2089~2050 208a~205f 208b+187 208c~204f 208d-208e~2065 208f!
2090~202f 2091~202c 2092~2023 2093~201b 2094~1e3b 2095~202d 2096-2099~202b 209a~202a
209b-209c~2028 209d=77 209e-209f~2025 20a8=72,73 20c4-20cf! 20f1-20ff! 2100=61,2f,63
2101=61,2f,73 2102~209f 2103=b0,63 2105=63,2f,6f 2106=63,2f,75 2107~1eac 2109=b0,66
210a-210b~20a3 210c~20a4 210d~20a5 210e~20a6 210f~1fe8 2110~20a7 2111~20a8 2112~20a6
2113-2115/~20a7 2116=6e,6f 2119-211b~20a9 211c~20aa 211d~20ab 2120=73,6d 2121=74,65,6c
2122=74,6d 2124~20aa 2126~1d5d 2128~20ae 212a~20bf 212b~2046 212c-212d~20ca 212f~20ca
2130-2131~20cb 2132+1c 2133~20c6 2134~20c5 2135-2138~1b65 2139~20d0 213b=66,61,78 213c~1d7c
213d~1d8a 213e~1d8b 213f~1d7f 2140+d1 2145~20e1 2146-2147~20e2 2148-2149~20df 2150=31,2044,37
2151=31,2044,39 2152=31,2044,31,30 2153=31,2044,33 2154=32,2044,33 2155=31,2044,35
2156=32,2044,35 2157=33,2044,35 2158=34,2044,35 2159=31,2044,36 215a=35,2044,36 215b=31,2044,38
215c=33,2044,38 215d=35,2044,38 215e=37,2044,38 215f=31,2044 2160~20f7 2161=69,69 2162=69,69,69
2163=69,76 2164~20ee 2165=76,69 2166=76,69,69 2167=76,69,69,69 2168=69,78 2169~20f1 216a=78,69
216b=78,69,69 216c~2100 216d-216e~210a 216f~2102 2170~2107 2171=69,69 2172=69,69,69 2173=69,76
2174~20fe 2175=76,69 2176=76,69,69 2177=76,69,69,69 2178=69,78 2179~2101 217a=78,69
217b=78,69,69 217c~2110 217d-217e~211a 217f~2112 2183+1 2189=30,2044,33 218c-218f!
222c=222b,222b 222d=222b,222b,222b 222f=222e,222e 2230=222e,222e,222e 242a-243f! 244b-245f!
2460-2468~242f 2469=31,30 246a=31,31 246b=31,32 246c=31,33 246d=31,34 246e=31,35 246f=31,36
2470=31,37 2471=31,38 2472=31,39 2473=32,30 2474=28,31,29 2475=28,32,29 2476=28,33,29
2477=28,34,29 2478=28,35,29 2479=28,36,29 247a=28,37,29 247b=28,38,29 247c=28,39,29
247d=28,31,30,29 247e=28,31,31,29 247f=28,31,32,29 2480=28,31,33,29 2481=28,31,34,29
2482=28,31,35,29 2483=28,31,36,29 2484=28,31,37,29 2485=28,31,38,29 2486=28,31,39,29
2487=28,32,30,29 2488-249b! 249c=28,61,29 249d=28,62,29 249e=28,63,29 249f=28,64,29
24a0=28,65,29 24a1=28,66,29 24a2=28,67,29 24a3=28,68,29 24a4=28,69,29 24a5=28,6a,29
24a6=28,6b,29 24a7=28,6c,29 24a8=28,6d,29 24a9=28,6e,29 24aa=28,6f,29 24ab=28,70,29
24ac=28,71,29 24ad=28,72,29 24ae=28,73,29 24af=28,74,29 24b0=28,75,29 24b1=28,76,29
24b2=28,77,29 24b3=28,78,29 24b4=28,79,29 24b5=28,7a,29 24b6-24cf~2455 24d0-24e9~246f 24ea~24ba
2a0c=222b,222b,222b,222b 2a74=3a,3a,3d 2a75=3d,3d 2a76=3d,3d,3d 2b74-2b75! 2c00-2c2f+30 2c60+1
2c62~29f7 2c63~ee6 2c64~29e7 2c67-2c6b/+1 2c6d~2a1c 2c6e~29fd 2c6f~2a1f 2c70~2a1e 2c72+1 2c75+1
2c7c~2c12 2c7d~2c07 2c7e-2c7f~2a3f 2c80-2ce2/+1 2ceb-2ced/+1 2cf2+1 2cf4-2cf8! 2d26! 2d28-2d2c!
2d2e-2d2f! 2d68-2d6e! 2d6f~e 2d71-2d7e! 2d97-2d9f! 2da7! 2daf! 2db7! 2dbf! 2dc7! 2dcf! 2dd7!
2ddf! 2e5e-2e7f! 2e9a! 2e9f+3d2e 2ef3+70ac 2ef4-2eff! 2f00+1f00 2f01+1f27 2f02+1f34 2f03+1f3c
2f04+1f55 2f05+1f80 2f06+1f86 2f07+1f99 2f08+1fb2 2f09+2236 2f0a+225b 2f0b+2260 2f0c+2276
2f0d+2289 2f0e+229d 2f0f+22d1 2f10+22e5 2f11+22ef 2f12+2389 2f13+23e6 2f14+2401 2f15+2405
2f16+2422 2f17+242a 2f18+2444 2f19+2450 2f1a+2468 2f1b+249b 2f1c+24ac 2f1d+24c6 2f1e+27b9
2f1f+2800 2f20+29cb 2f21+29e1 2f22+29e8 2f23+29f2 2f24+2a03 2f25+2a4e 2f26+2c2a 2f27+2c59
2f28+2cd0 2f29+2ce6 2f2a+2cf8 2f2b+2d0d 2f2c+2d42 2f2d+2d44 2f2e+2ead 2f2f+2eb6 2f30+2ec1
2f31+2ecd 2f32+2f40 2f33+2f47 2f34+2f4b 2f35+2fbf 2f36+2fc8 2f37+2fd4 2f38+2fdb 2f39+3017
2f3a+3027 2f3b+3038 2f3c+3087 2f3d+32cb 2f3e+32f8 2f3f+330c 2f40+35ef 2f41+35f3 2f42+3645
2f43+3654 2f44+3660 2f45+3674 2f46+369a 2f47+369e 2f48+37a8 2f49+37bf 2f4a+37de 2f4b+3bd5
2f4c+3c16 2f4d+3c2c 2f4e+3c65 2f4f+3c7c 2f50+3c84 2f51+3c8a 2f52+3cbd 2f53+3cc1 2f54+3ce0
2f55+4116 2f56+42d4 2f57+42df 2f58+42e3 2f59+42e6 2f5a+42ed 2f5b+42fe 2f5c+42ff 2f5d+434f
2f5e+4426 2f5f+442a 2f60+457c 2f61+4585 2f62+45b6 2f63+45bc 2f64+45c4 2f65+45cb 2f66+4625
2f67+462b 2f68+470e 2f69+4714 2f6a+4744 2f6b+4754 2f6c+4782 2f6d+486e 2f6e+4874 2f6f+4884
2f70+49ca 2f71+4a47 2f72+4a4c 2f73+4b01 2f74+4b57 2f75+4b84 2f76+4cfd 2f77+4d81 2f78+4fbe
2f79+4fd8 2f7a+5010 2f7b+5042 2f7c+5085 2f7d+508f 2f7e+5094 2f7f+50b4 2f80+50ff 2f81+5108
2f82+5261 2f83+5267 2f84+526f 2f85+5277 2f86+5286 2f87+5294 2f88+5297 2f89+52e5 2f8a+52e8
2f8b+52ed 2f8c+56c1 2f8d+56de 2f8e+58b2 2f8f+58bd 2f90+58d3 2f91+59ed 2f92+59f9 2f93+5a3f
2f94+5a6c 2f95+5ca2 2f96+5cb0 2f97+5cbe 2f98+5ce0 2f99+5d04 2f9a+5dca 2f9b+5dd5 2f9c+5e17
2f9d+5f0e 2f9e+5f2c 2f9f+5ffc 2fa0+6010 2fa1+6014 2fa2+60ef 2fa3+61a6 2fa4+6222 2fa5+6227
2fa6+622b 2fa7+65d0 2fa8+65d8 2fa9+6673 2faa+670c 2fab+670e 2fac+673c 2fad+67a4 2fae+67b0
2faf+67b3 2fb0+67b9 2fb1+681a 2fb2+683b 2fb3+6840 2fb4+684d 2fb5+68f3 2fb6+6925 2fb7+6928
2fb8+69de 2fb9+69e0 2fba+69f2 2fbb+6aed 2fbc+6b1c 2fbd+6b22 2fbe+6b67 2fbf+6b70 2fc0+6b72
2fc1+6b7b 2fc2+6b98 2fc3+6d22 2fc4+6eb1 2fc5+6eba 2fc6+6edf 2fc7+6ef4 2fc8+6efb 2fc9+6f04
2fca+6f07 2fcb+6f2e 2fcc+6f31 2fcd+6f41 2fce+6f45 2fcf+6f51 2fd0+6f6b 2fd1+6f79 2fd2+6f80
2fd3+6fba 2fd4+6fc8 2fd5+6fcb 2fd6-2fff! 3000~2fe0 3002~2fd4 3036~24 3038+2309 3039-303a+230b
3040! 3097-3098! 309b=20,3099 309c=20,309a 309f=3088,308a 30ff=30b3,30c8 3100-3104! 3130!
3131-3132~2031 3133~1f89 3134~2032 3135-3136~1f89 3137-3139~2034 313a-313f~1f8a 3140~2026
3141-3143~203b 3144~2023 3145-314e~203c 314f-3163~1fee 3164= 3165-3166~2051 3167-3168~1fa0
3169~1f9d 316a~1f9c 316b~1f98 316c~1f95 316d~1f94 316e~2052 316f~1f92 3170~1f91 3171-3172~2054
3173~2053 3174-3175~2052 3176~204f 3177~204e 3178-317c~204d 317d~204b 317e~2048 317f~203f
3180~2039 3181~2035 3182-3183~1f91 3184-3186~202d 3187-3188~2003 3189~2001 318a-318b~1ff9
318c~1ff8 318d~1fef 318e~1fed 318f! 3192+1c6e 3193+1cf9 3194+1c75 3195+2546 3196+1c74 3197+1c96
3198+1c73 3199+4399 319a+1cbf 319b+1c7e 319c+1c65 319d+278c 319e+2592 319f+1d1b 31e6-31ef!
3200=28,1100,29 3201=28,1102,29 3202=28,1103,29 3203=28,1105,29 3204=28,1106,29 3205=28,1107,29
3206=28,1109,29 3207=28,110b,29 3208=28,110c,29 3209=28,110e,29 320a=28,110f,29 320b=28,1110,29
320c=28,1111,29 320d=28,1112,29 320e=28,ac00,29 320f=28,b098,29 3210=28,b2e4,29 3211=28,b77c,29
3212=28,b9c8,29 3213=28,bc14,29 3214=28,c0ac,29 3215=28,c544,29 3216=28,c790,29 3217=28,cc28,29
3218=28,ce74,29 3219=28,d0c0,29 321a=28,d30c,29 321b=28,d558,29 321c=28,c8fc,29
321d=28,c624,c804,29 321e=28,c624,d6c4,29 321f! 3220=28,4e00,29 3221=28,4e8c,29 3222=28,4e09,29
3223=28,56db,29 3224=28,4e94,29 3225=28,516d,29 3226=28,4e03,29 3227=28,516b,29 3228=28,4e5d,29
3229=28,5341,29 322a=28,6708,29 322b=28,706b,29 322c=28,6c34,29 322d=28,6728,29 322e=28,91d1,29
322f=28,571f,29 3230=28,65e5,29 3231=28,682a,29 3232=28,6709,29 3233=28,793e,29 3234=28,540d,29
3235=28,7279,29 3236=28,8ca1,29 3237=28,795d,29 3238=28,52b4,29 3239=28,4ee3,29 323a=28,547c,29
323b=28,5b66,29 323c=28,76e3,29 323d=28,4f01,29 323e=28,8cc7,29 323f=28,5354,29 3240=28,796d,29
3241=28,4f11,29 3242=28,81ea,29 3243=28,81f3,29 3244+230b 3245+2c37 3246+3341 3247+4948
3250=70,74,65 3251=32,31 3252=32,32 3253=32,33 3254=32,34 3255=32,35 3256=32,36 3257=32,37
3258=32,38 3259=32,39 325a=33,30 325b=33,31 325c=33,32 325d=33,33 325e=33,34 325f=33,35
3260~2160 3261-3262~215f 3263-3265~215e 3266~215d 3267-3268~215c 3269-326d~215b 326e+7992
326f+7e29 3270+8074 3271+850b 3272+8756 3273+89a1 3274+8e38 3275+92cf 3276+951a 3277+99b1
3278+9bfc 3279+9e47 327a+a092 327b+a2dd 327c=cc38,ace0 327d=c8fc,c758 327e+9432 3280+1b80
3281+1c0b 3282+1b87 3283+2458 3284+1c10 3285+1ee8 3286+1b7d 3287+1ee4 3288+1bd5 3289+20b8
328a+347e 328b+3de0 328c+39a8 328d+349b 328e+5f43 328f+2490 3290+3355 3291+3599 3292+3477
3293+46ab 3294+2179 3295+3fe4 3296+5a0b 3297+46c6 3298+201c 3299+473f 329a+429d 329b+26d8
329c+5dcd 329d+1e8d 329e+20d2 329f+3a49 32a0+6565 32a1+1c70 32a2+1ef7 32a3+38c0 32a4+1b66
32a5+1b88 32a6+1b65 32a7+2b3f 32a8+214b 32a9+2092 32aa+28ed 32ab+28bb 32ac+4437 32ad+1c54
32ae+5a19 32af+20a5 32b0+266c 32b1=33,36 32b2=33,37 32b3=33,38 32b4=33,39 32b5=34,30 32b6=34,31
32b7=34,32 32b8=34,33 32b9=34,34 32ba=34,35 32bb=34,36 32bc=34,37 32bd=34,38 32be=34,39
32bf=35,30 32c0=31,6708 32c1=32,6708 32c2=33,6708 32c3=34,6708 32c4=35,6708 32c5=36,6708
32c6=37,6708 32c7=38,6708 32c8=39,6708 32c9=31,30,6708 32ca=31,31,6708 32cb=31,32,6708
32cc=68,67 32cd=65,72,67 32ce=65,76 32cf=6c,74,64 32d0~22e 32d1~22d 32d2~22c 32d3~22b
32d4-32d5~22a 32d6~229 32d7~228 32d8~227 32d9~226 32da~225 32db~224 32dc~223 32dd~222 32de~221
32df~220 32e0~21f 32e1~21d 32e2~21c 32e3~21b 32e4-32e9~21a 32ea~218 32eb~216 32ec~214 32ed~212
32ee-32f2~210 32f3~20f 32f4~20e 32f5-32fa~20d 32fb-32fe~20c 32ff=4ee4,548c
3300=30a2,30d1,30fc,30c8 3301=30a2,30eb,30d5,30a1 3302=30a2,30f3,30da,30a2 3303=30a2,30fc,30eb
3304=30a4,30cb,30f3,30b0 3305=30a4,30f3,30c1 3306=30a6,30a9,30f3 3307=30a8,30b9,30af,30fc,30c9
3308=30a8,30fc,30ab,30fc 3309=30aa,30f3,30b9 330a=30aa,30fc,30e0 330b=30ab,30a4,30ea
330c=30ab,30e9,30c3,30c8 330d=30ab,30ed,30ea,30fc 330e=30ac,30ed,30f3 330f=30ac,30f3,30de
3310=30ae,30ac 3311=30ae,30cb,30fc 3312=30ad,30e5,30ea,30fc 3313=30ae,30eb,30c0,30fc
3314=30ad,30ed 3315=30ad,30ed,30b0,30e9,30e0 3316=30ad,30ed,30e1,30fc,30c8,30eb
3317=30ad,30ed,30ef,30c3,30c8 3318=30b0,30e9,30e0 3319=30b0,30e9,30e0,30c8,30f3
331a=30af,30eb,30bc,30a4,30ed 331b=30af,30ed,30fc,30cd 331c=30b1,30fc,30b9 331d=30b3,30eb,30ca
331e=30b3,30fc,30dd 331f=30b5,30a4,30af,30eb 3320=30b5,30f3,30c1,30fc,30e0
3321=30b7,30ea,30f3,30b0 3322=30bb,30f3,30c1 3323=30bb,30f3,30c8 3324=30c0,30fc,30b9
3325=30c7,30b7 3326=30c9,30eb 3327=30c8,30f3 3328=30ca,30ce 3329=30ce,30c3,30c8
332a=30cf,30a4,30c4 332b=30d1,30fc,30bb,30f3,30c8 332c=30d1,30fc,30c4 332d=30d0,30fc,30ec,30eb
332e=30d4,30a2,30b9,30c8,30eb 332f=30d4,30af,30eb 3330=30d4,30b3 3331=30d3,30eb
3332=30d5,30a1,30e9,30c3,30c9 3333=30d5,30a3,30fc,30c8 3334=30d6,30c3,30b7,30a7,30eb
3335=30d5,30e9,30f3 3336=30d8,30af,30bf,30fc,30eb 3337=30da,30bd 3338=30da,30cb,30d2
3339=30d8,30eb,30c4 333a=30da,30f3,30b9 333b=30da,30fc,30b8 333c=30d9,30fc,30bf
333d=30dd,30a4,30f3,30c8 333e=30dc,30eb,30c8 333f=30db,30f3 3340=30dd,30f3,30c9
3341=30db,30fc,30eb 3342=30db,30fc,30f3 3343=30de,30a4,30af,30ed 3344=30de,30a4,30eb
3345=30de,30c3,30cf 3346=30de,30eb,30af 3347=30de,30f3,30b7,30e7,30f3 3348=30df,30af,30ed,30f3
3349=30df,30ea 334a=30df,30ea,30d0,30fc,30eb 334b=30e1,30ac 334c=30e1,30ac,30c8,30f3
334d=30e1,30fc,30c8,30eb 334e=30e4,30fc,30c9 334f=30e4,30fc,30eb 3350=30e6,30a2,30f3
3351=30ea,30c3,30c8,30eb 3352=30ea,30e9 3353=30eb,30d4,30fc 3354=30eb,30fc,30d6,30eb
3355=30ec,30e0 3356=30ec,30f3,30c8,30b2,30f3 3357=30ef,30c3,30c8 3358=30,70b9 3359=31,70b9
335a=32,70b9 335b=33,70b9 335c=34,70b9 335d=35,70b9 335e=36,70b9 335f=37,70b9 3360=38,70b9
3361=39,70b9 3362=31,30,70b9 3363=31,31,70b9 3364=31,32,70b9 3365=31,33,70b9 3366=31,34,70b9
3367=31,35,70b9 3368=31,36,70b9 3369=31,37,70b9 336a=31,38,70b9 336b=31,39,70b9 336c=32,30,70b9
336d=32,31,70b9 336e=32,32,70b9 336f=32,33,70b9 3370=32,34,70b9 3371=68,70,61 3372=64,61
3373=61,75 3374=62,61,72 3375=6f,76 3376=70,63 3377=64,6d 3378=64,6d,32 3379=64,6d,33 337a=69,75
337b=5e73,6210 337c=662d,548c 337d=5927,6b63 337e=660e,6cbb 337f=682a,5f0f,4f1a,793e 3380=70,61
3381=6e,61 3382=3bc,61 3383=6d,61 3384=6b,61 3385=6b,62 3386=6d,62 3387=67,62 3388=63,61,6c
3389=6b,63,61,6c 338a=70,66 338b=6e,66 338c=3bc,66 338d=3bc,67 338e=6d,67 338f=6b,67 3390=68,7a
3391=6b,68,7a 3392=6d,68,7a 3393=67,68,7a 3394=74,68,7a 3395=3bc,6c 3396=6d,6c 3397=64,6c
3398=6b,6c 3399=66,6d 339a=6e,6d 339b=3bc,6d 339c=6d,6d 339d=63,6d 339e=6b,6d 339f=6d,6d,32
33a0=63,6d,32 33a1=6d,32 33a2=6b,6d,32 33a3=6d,6d,33 33a4=63,6d,33 33a5=6d,33 33a6=6b,6d,33
33a7=6d,2215,73 33a8=6d,2215,73,32 33a9=70,61 33aa=6b,70,61 33ab=6d,70,61 33ac=67,70,61
33ad=72,61,64 33ae=72,61,64,2215,73 33af=72,61,64,2215,73,32 33b0=70,73 33b1=6e,73 33b2=3bc,73
33b3=6d,73 33b4=70,76 33b5=6e,76 33b6=3bc,76 33b7=6d,76 33b8=6b,76 33b9=6d,76 33ba=70,77
33bb=6e,77 33bc=3bc,77 33bd=6d,77 33be=6b,77 33bf=6d,77 33c0=6b,3c9 33c1=6d,3c9 33c2! 33c3=62,71
33c4=63,63 33c5=63,64 33c6=63,2215,6b,67 33c7! 33c8=64,62 33c9=67,79 33ca=68,61 33cb=68,70
33cc=69,6e 33cd=6b,6b 33ce=6b,6d 33cf=6b,74 33d0=6c,6d 33d1=6c,6e 33d2=6c,6f,67 33d3=6c,78
33d4=6d,62 33d5=6d,69,6c 33d6=6d,6f,6c 33d7=70,68 33d8! 33d9=70,70,6d 33da=70,72 33db=73,72
33dc=73,76 33dd=77,62 33de=76,2215,6d 33df=61,2215,6d 33e0=31,65e5 33e1=32,65e5 33e2=33,65e5
33e3=34,65e5 33e4=35,65e5 33e5=36,65e5 33e6=37,65e5 33e7=38,65e5 33e8=39,65e5 33e9=31,30,65e5
33ea=31,31,65e5 33eb=31,32,65e5 33ec=31,33,65e5 33ed=31,34,65e5 33ee=31,35,65e5 33ef=31,36,65e5
33f0=31,37,65e5 33f1=31,38,65e5 33f2=31,39,65e5 33f3=32,30,65e5 33f4=32,31,65e5 33f5=32,32,65e5
33f6=32,33,65e5 33f7=32,34,65e5 33f8=32,35,65e5 33f9=32,36,65e5 33fa=32,37,65e5 33fb=32,38,65e5
33fc=32,39,65e5 33fd=33,30,65e5 33fe=33,31,65e5 33ff=67,61,6c a48d-a48f! a4c7-a4cf! a62c-a63f!
a640-a66c/+1 a680-a69a/+1 a69c~a252 a69d~a251 a6f8-a6ff! a722-a72e/+1 a732-a76e/+1 a770~1
a779-a77b/+1 a77d~8a04 a77e-a786/+1 a78b+1 a78d~a528 a790-a792/+1 a796-a7a8/+1 a7aa~a544
a7ab~a54f a7ac~a54b a7ad~a541 a7ae~a544 a7b0~a512 a7b1~a52a a7b2~a515 a7b3+3a0 a7b4-a7c2/+1
a7c4~30 a7c5~a543 a7c6~8a38 a7c7-a7c9/+1 a7cb~a567 a7cc-a7da/+1 a7dc~a641 a7dd-a7e2~a566
a7e3-a7f0! a7f1~a77e a7f2~a78f a7f3~a78d a7f4~a783 a7f5+1 a7f8~a6d1 a7f9~a6a6 a82d-a82f!
a83a-a83f! a878-a87f! a8c6-a8cd! a8da-a8df! a954-a95e! a97d-a97f! a9ce! a9da-a9dd! a9ff!
aa37-aa3f! aa4e-aa4f! aa5a-aa5b! aac3-aada! aaf7-ab00! ab07-ab08! ab0f-ab10! ab17-ab1f! ab27!
ab2f! ab5c~435 ab5d~26 ab5e~a8f3 ab5f~d ab69~a8dc ab6c-ab6f! ab70-abbf~97d0 abee-abef!
abfa-abff! d7a4-d7af! d7c7-d7ca! d7fc-f8ff! fa6e-fa6f! fada-faff! fb00=66,66 fb01=66,69
fb02=66,6c fb03=66,66,69 fb04=66,66,6c fb05=73,74 fb06=73,74 fb07-fb12! fb13=574,576
fb14=574,565 fb15=574,56b fb16=57e,576 fb17=574,56d fb18-fb1c! fb20~f53e fb21~f551
fb22-fb23~f54f fb24-fb26~f549 fb27~f53f fb28~f53e fb29~fafe fb37! fb3d! fb3f! fb42! fb45!
fb4f=5d0,5dc fb50~f4df fb51~f4e0 fb52~f4d7 fb53~f4d8 fb54~f4d9 fb55~f4da fb56~f4d8 fb57~f4d9
fb58~f4da fb59~f4db fb5a~f4da fb5b~f4db fb5c~f4dc fb5d~f4dd fb5e~f4e4 fb5f~f4e5 fb60~f4e6
fb61~f4e7 fb62~f4e3 fb63~f4e4 fb64~f4e5 fb65~f4e6 fb66~f4ed fb67~f4ee fb68~f4ef fb69~f4f0
fb6a~f4c6 fb6b~f4c7 fb6c~f4c8 fb6d~f4c9 fb6e~f4c8 fb6f~f4c9 fb70~f4ca fb71~f4cb fb72~f4ee
fb73~f4ef fb74~f4f0 fb75~f4f1 fb76~f4f3 fb77~f4f4 fb78~f4f5 fb79~f4f6 fb7a~f4f4 fb7b~f4f5
fb7c~f4f6 fb7d-fb7e~f4f7 fb7f~f4f8 fb80~f4f9 fb81~f4fa fb82~f4f5 fb83~f4f6 fb84~f4f8 fb85~f4f9
fb86~f4f8 fb87~f4f9 fb88~f500 fb89~f501 fb8a~f4f2 fb8b~f4f3 fb8c~f4fb fb8d~f4fc fb8e~f4e5
fb8f~f4e6 fb90~f4e7 fb91~f4e8 fb92~f4e3 fb93~f4e4 fb94~f4e5 fb95~f4e6 fb96~f4e3 fb97~f4e4
fb98~f4e5 fb99~f4e6 fb9a~f4e9 fb9b~f4ea fb9c~f4eb fb9d~f4ec fb9e~f4e4 fb9f-fba0~f4e5 fba1~f4e6
fba2~f4e7 fba3~f4e8 fba4~f4e4 fba5-fba6~f4e5 fba7~f4e6 fba8~f4e7 fba9~f4e8 fbaa~f4ec fbab~f4ed
fbac~f4ee fbad~f4ef fbae~f4dc fbaf-fbb0~f4dd fbb1~f4de fbd3~f526 fbd4~f527 fbd5~f528 fbd6~f529
fbd7~f510 fbd8~f511 fbd9~f513 fbda~f514 fbdb~f513 fbdc~f514 fbdd=6c7,674 fbde~f513 fbdf~f514
fbe0~f51b fbe1~f51c fbe2~f519 fbe3~f51a fbe4~f514 fbe5~f515 fbe6~f516 fbe7~f517 fbe8~f59f
fbe9~f5a0 fbea=626,627 fbeb=626,627 fbec=626,6d5 fbed=626,6d5 fbee=626,648 fbef=626,648
fbf0=626,6c7 fbf1=626,6c7 fbf2=626,6c6 fbf3=626,6c6 fbf4=626,6c8 fbf5=626,6c8 fbf6=626,6d0
fbf7=626,6d0 fbf8=626,6d0 fbf9=626,649 fbfa=626,649 fbfb=626,649 fbfc~f530 fbfd~f531 fbfe~f532
fbff~f533 fc00=626,62c fc01=626,62d fc02=626,645 fc03=626,649 fc04=626,64a fc05=628,62c
fc06=628,62d fc07=628,62e fc08=628,645 fc09=628,649 fc0a=628,64a fc0b=62a,62c fc0c=62a,62d
fc0d=62a,62e fc0e=62a,645 fc0f=62a,649 fc10=62a,64a fc11=62b,62c fc12=62b,645 fc13=62b,649
fc14=62b,64a fc15=62c,62d fc16=62c,645 fc17=62d,62c fc18=62d,645 fc19=62e,62c fc1a=62e,62d
fc1b=62e,645 fc1c=633,62c fc1d=633,62d fc1e=633,62e fc1f=633,645 fc20=635,62d fc21=635,645
fc22=636,62c fc23=636,62d fc24=636,62e fc25=636,645 fc26=637,62d fc27=637,645 fc28=638,645
fc29=639,62c fc2a=639,645 fc2b=63a,62c fc2c=63a,645 fc2d=641,62c fc2e=641,62d fc2f=641,62e
fc30=641,645 fc31=641,649 fc32=641,64a fc33=642,62d fc34=642,645 fc35=642,649 fc36=642,64a
fc37=643,627 fc38=643,62c fc39=643,62d fc3a=643,62e fc3b=643,644 fc3c=643,645 fc3d=643,649
fc3e=643,64a fc3f=644,62c fc40=644,62d fc41=644,62e fc42=644,645 fc43=644,649 fc44=644,64a
fc45=645,62c fc46=645,62d fc47=645,62e fc48=645,645 fc49=645,649 fc4a=645,64a fc4b=646,62c
fc4c=646,62d fc4d=646,62e fc4e=646,645 fc4f=646,649 fc50=646,64a fc51=647,62c fc52=647,645
fc53=647,649 fc54=647,64a fc55=64a,62c fc56=64a,62d fc57=64a,62e fc58=64a,645 fc59=64a,649
fc5a=64a,64a fc5b=630,670 fc5c=631,670 fc5d=649,670 fc5e=20,64c,651 fc5f=20,64d,651
fc60=20,64e,651 fc61=20,64f,651 fc62=20,650,651 fc63=20,651,670 fc64=626,631 fc65=626,632
fc66=626,645 fc67=626,646 fc68=626,649 fc69=626,64a fc6a=628,631 fc6b=628,632 fc6c=628,645
fc6d=628,646 fc6e=628,649 fc6f=628,64a fc70=62a,631 fc71=62a,632 fc72=62a,645 fc73=62a,646
fc74=62a,649 fc75=62a,64a fc76=62b,631 fc77=62b,632 fc78=62b,645 fc79=62b,646 fc7a=62b,649
fc7b=62b,64a fc7c=641,649 fc7d=641,64a fc7e=642,649 fc7f=642,64a fc80=643,627 fc81=643,644
fc82=643,645 fc83=643,649 fc84=643,64a fc85=644,645 fc86=644,649 fc87=644,64a fc88=645,627
fc89=645,645 fc8a=646,631 fc8b=646,632 fc8c=646,645 fc8d=646,646 fc8e=646,649 fc8f=646,64a
fc90=649,670 fc91=64a,631 fc92=64a,632 fc93=64a,645 fc94=64a,646 fc95=64a,649 fc96=64a,64a
fc97=626,62c fc98=626,62d fc99=626,62e fc9a=626,645 fc9b=626,647 fc9c=628,62c fc9d=628,62d
fc9e=628,62e fc9f=628,645 fca0=628,647 fca1=62a,62c fca2=62a,62d fca3=62a,62e fca4=62a,645
fca5=62a,647 fca6=62b,645 fca7=62c,62d fca8=62c,645 fca9=62d,62c fcaa=62d,645 fcab=62e,62c
fcac=62e,645 fcad=633,62c fcae=633,62d fcaf=633,62e fcb0=633,645 fcb1=635,62d fcb2=635,62e
fcb3=635,645 fcb4=636,62c fcb5=636,62d fcb6=636,62e fcb7=636,645 fcb8=637,62d fcb9=638,645
fcba=639,62c fcbb=639,645 fcbc=63a,62c fcbd=63a,645 fcbe=641,62c fcbf=641,62d fcc0=641,62e
fcc1=641,645 fcc2=642,62d fcc3=642,645 fcc4=643,62c fcc5=643,62d fcc6=643,62e fcc7=643,644
fcc8=643,645 fcc9=644,62c fcca=644,62d fccb=644,62e fccc=644,645 fccd=644,647 fcce=645,62c
fccf=645,62d fcd0=645,62e fcd1=645,645 fcd2=646,62c fcd3=646,62d fcd4=646,62e fcd5=646,645
fcd6=646,647 fcd7=647,62c fcd8=647,645 fcd9=647,670 fcda=64a,62c fcdb=64a,62d fcdc=64a,62e
fcdd=64a,645 fcde=64a,647 fcdf=626,645 fce0=626,647 fce1=628,645 fce2=628,647 fce3=62a,645
fce4=62a,647 fce5=62b,645 fce6=62b,647 fce7=633,645 fce8=633,647 fce9=634,645 fcea=634,647
fceb=643,644 fcec=643,645 fced=644,645 fcee=646,645 fcef=646,647 fcf0=64a,645 fcf1=64a,647
fcf2=640,64e,651 fcf3=640,64f,651 fcf4=640,650,651 fcf5=637,649 fcf6=637,64a fcf7=639,649
fcf8=639,64a fcf9=63a,649 fcfa=63a,64a fcfb=633,649 fcfc=633,64a fcfd=634,649 fcfe=634,64a
fcff=62d,649 fd00=62d,64a fd01=62c,649 fd02=62c,64a fd03=62e,649 fd04=62e,64a fd05=635,649
fd06=635,64a fd07=636,649 fd08=636,64a fd09=634,62c fd0a=634,62d fd0b=634,62e fd0c=634,645
fd0d=634,631 fd0e=633,631 fd0f=635,631 fd10=636,631 fd11=637,649 fd12=637,64a fd13=639,649
fd14=639,64a fd15=63a,649 fd16=63a,64a fd17=633,649 fd18=633,64a fd19=634,649 fd1a=634,64a
fd1b=62d,649 fd1c=62d,64a fd1d=62c,649 fd1e=62c,64a fd1f=62e,649 fd20=62e,64a fd21=635,649
fd22=635,64a fd23=636,649 fd24=636,64a fd25=634,62c fd26=634,62d fd27=634,62e fd28=634,645
fd29=634,631 fd2a=633,631 fd2b=635,631 fd2c=636,631 fd2d=634,62c fd2e=634,62d fd2f=634,62e
fd30=634,645 fd31=633,647 fd32=634,647 fd33=637,645 fd34=633,62c fd35=633,62d fd36=633,62e
fd37=634,62c fd38=634,62d fd39=634,62e fd3a=637,645 fd3b=638,645 fd3c=627,64b fd3d=627,64b
fd50=62a,62c,645 fd51=62a,62d,62c fd52=62a,62d,62c fd53=62a,62d,645 fd54=62a,62e,645
fd55=62a,645,62c fd56=62a,645,62d fd57=62a,645,62e fd58=62c,645,62d fd59=62c,645,62d
fd5a=62d,645,64a fd5b=62d,645,649 fd5c=633,62d,62c fd5d=633,62c,62d fd5e=633,62c,649
fd5f=633,645,62d fd60=633,645,62d fd61=633,645,62c fd62=633,645,645 fd63=633,645,645
fd64=635,62d,62d fd65=635,62d,62d fd66=635,645,645 fd67=634,62d,645 fd68=634,62d,645
fd69=634,62c,64a fd6a=634,645,62e fd6b=634,645,62e fd6c=634,645,645 fd6d=634,645,645
fd6e=636,62d,649 fd6f=636,62e,645 fd70=636,62e,645 fd71=637,645,62d fd72=637,645,62d
fd73=637,645,645 fd74=637,645,64a fd75=639,62c,645 fd76=639,645,645 fd77=639,645,645
fd78=639,645,649 fd79=63a,645,645 fd7a=63a,645,64a fd7b=63a,645,649 fd7c=641,62e,645
fd7d=641,62e,645 fd7e=642,645,62d fd7f=642,645,645 fd80=644,62d,645 fd81=644,62d,64a
fd82=644,62d,649 fd83=644,62c,62c fd84=644,62c,62c fd85=644,62e,645 fd86=644,62e,645
fd87=644,645,62d fd88=644,645,62d fd89=645,62d,62c fd8a=645,62d,645 fd8b=645,62d,64a
fd8c=645,62c,62d fd8d=645,62c,645 fd8e=645,62e,62c fd8f=645,62e,645 fd92=645,62c,62e
fd93=647,645,62c fd94=647,645,645 fd95=646,62d,645 fd96=646,62d,649 fd97=646,62c,645
fd98=646,62c,645 fd99=646,62c,649 fd9a=646,645,64a fd9b=646,645,649 fd9c=64a,645,645
fd9d=64a,645,645 fd9e=628,62e,64a fd9f=62a,62c,64a fda0=62a,62c,649 fda1=62a,62e,64a
fda2=62a,62e,649 fda3=62a,645,64a fda4=62a,645,649 fda5=62c,645,64a fda6=62c,62d,649
fda7=62c,645,649 fda8=633,62e,649 fda9=635,62d,64a fdaa=634,62d,64a fdab=636,62d,64a
fdac=644,62c,64a fdad=644,645,64a fdae=64a,62d,64a fdaf=64a,62c,64a fdb0=64a,645,64a
fdb1=645,645,64a fdb2=642,645,64a fdb3=646,62d,64a fdb4=642,645,62d fdb5=644,62d,645
fdb6=639,645,64a fdb7=643,645,64a fdb8=646,62c,62d fdb9=645,62e,64a fdba=644,62c,645
fdbb=643,645,645 fdbc=644,62c,645 fdbd=646,62c,62d fdbe=62c,62d,64a fdbf=62d,62c,64a
fdc0=645,62c,64a fdc1=641,645,64a fdc2=628,62d,64a fdc3=643,645,645 fdc4=639,62c,645
fdc5=635,645,645 fdc6=633,62e,64a fdc7=646,62c,64a fdd0-fdef! fdf0=635,644,6d2 fdf1=642,644,6d2
fdf2=627,644,644,647 fdf3=627,643,628,631 fdf4=645,62d,645,62f fdf5=635,644,639,645
fdf6=631,633,648,644 fdf7=639,644,64a,647 fdf8=648,633,644,645 fdf9=635,644,649
fdfa=635,644,649,20,627,644,644,647,20,639,644,64a,647,20,648,633,644,645
fdfb=62c,644,20,62c,644,627,644,647 fdfc=631,6cc,627,644 fe00-fe0f= fe10~fde4 fe11~ce10 fe12!
fe13-fe14~fdd9 fe15~fdf4 fe16~fdd7 fe17-fe18~ce01 fe19-fe1f! fe30! fe31~de1d fe32~de1f fe33~fdd4
fe34~fdd5 fe35-fe36~fe0d fe37~fdbc fe38~fdbb fe39-fe3a~ce25 fe3b-fe3c~ce2b fe3d-fe3e~ce33
fe3f-fe40~ce37 fe41-fe44~ce35 fe47~fdec fe48~fdeb fe49=20,305 fe4a=20,305 fe4b=20,305
fe4c=20,305 fe4d~fdee fe4e~fdef fe4f~fdf0 fe50~fe24 fe51~ce50 fe52-fe53! fe54~fe19 fe55~fe1b
fe56~fe17 fe57~fe36 fe58~de44 fe59-fe5a~fe31 fe5b~fde0 fe5c~fddf fe5d-fe5e~ce49 fe5f~fe3c
fe60~fe3a fe61-fe62~fe37 fe63~fe36 fe64~fe28 fe65~fe27 fe66~fe29 fe67! fe68~fe0c fe69-fe6a~fe45
fe6b~fe2b fe6c-fe6f! fe70=20,64b fe71=640,64b fe72=20,64c fe74=20,64d fe75! fe76=20,64e
fe77=640,64e fe78=20,64f fe79=640,64f fe7a=20,650 fe7b=640,650 fe7c=20,651 fe7d=640,651
fe7e=20,652 fe7f=640,652 fe80-fe81~f85f fe82-fe83~f860 fe84-fe85~f861 fe86-fe87~f862
fe88-fe89~f863 fe8a~f864 fe8b~f865 fe8c-fe8d~f866 fe8e-fe8f~f867 fe90~f868 fe91~f869
fe92-fe93~f86a fe94-fe95~f86b fe96~f86c fe97~f86d fe98-fe99~f86e fe9a~f86f fe9b~f870
fe9c-fe9d~f871 fe9e~f872 fe9f~f873 fea0-fea1~f874 fea2~f875 fea3~f876 fea4-fea5~f877 fea6~f878
fea7~f879 fea8-fea9~f87a feaa-feab~f87b feac-fead~f87c feae-feaf~f87d feb0-feb1~f87e feb2~f87f
feb3~f880 feb4-feb5~f881 feb6~f882 feb7~f883 feb8-feb9~f884 feba~f885 febb~f886 febc-febd~f887
febe~f888 febf~f889 fec0-fec1~f88a fec2~f88b fec3~f88c fec4-fec5~f88d fec6~f88e fec7~f88f
fec8-fec9~f890 feca~f891 fecb~f892 fecc-fecd~f893 fece~f894 fecf~f895 fed0~f896 fed1~f890
fed2~f891 fed3~f892 fed4-fed5~f893 fed6~f894 fed7~f895 fed8-fed9~f896 feda~f897 fedb~f898
fedc-fedd~f899 fede~f89a fedf~f89b fee0-fee1~f89c fee2~f89d fee3~f89e fee4-fee5~f89f fee6~f8a0
fee7~f8a1 fee8-fee9~f8a2 feea~f8a3 feeb~f8a4 feec-feed~f8a5 feee-feef~f8a6 fef0-fef1~f8a7
fef2~f8a8 fef3~f8a9 fef4~f8aa fef5=644,622 fef6=644,622 fef7=644,623 fef8=644,623 fef9=644,625
fefa=644,625 fefb=644,627 fefc=644,627 fefd-fefe! feff= ff00! ff01-ff20~fee0 ff21-ff3a~fec0
ff3b-ff5e~fee0 ff5f-ff60~d5da ff61~ff33 ff62-ff63~cf56 ff64~cf63 ff65~ce6a ff66~ce74 ff67~cec6
ff68~cec5 ff69~cec4 ff6a~cec3 ff6b~cec2 ff6c~ce89 ff6d~ce88 ff6e~ce87 ff6f~ceac ff70~ce74
ff71~cecf ff72~cece ff73~cecd ff74~cecc ff75-ff76~cecb ff77~ceca ff78~cec9 ff79~cec8 ff7a~cec7
ff7b~cec6 ff7c~cec5 ff7d~cec4 ff7e~cec3 ff7f~cec2 ff80~cec1 ff81~cec0 ff82~cebe ff83~cebd
ff84~cebc ff85-ff8a~cebb ff8b~ceb9 ff8c~ceb7 ff8d~ceb5 ff8e~ceb3 ff8f-ff93~ceb1 ff94~ceb0
ff95~ceaf ff96-ff9b~ceae ff9c~cead ff9d~ceaa ff9e-ff9f~cf05 ffa0= ffa1-ffa2~eea1 ffa3~edf9
ffa4~eea2 ffa5-ffa6~edf9 ffa7-ffa9~eea4 ffaa-ffaf~edfa ffb0~ee96 ffb1-ffb3~eeab ffb4~ee93
ffb5-ffbe~eeac ffbf-ffc1! ffc2-ffc7~ee61 ffc8-ffc9! ffca-ffcf~ee63 ffd0-ffd1! ffd2-ffd7~ee65
ffd8-ffd9! ffda-ffdc~ee67 ffdd-ffdf! ffe0-ffe1~ff3e ffe2~ff36 ffe3=20,304 ffe4~ff3e ffe5~ff40
ffe6~df3d ffe7! ffe8~dae6 ffe9-ffec~de59 ffed~da4d ffee~da23 ffef-ffff! 1000c! 10027! 1003b!
1003e! 1004e-1004f! 1005e-1007f! 100fb-100ff! 10103-10106! 10134-10136! 1018f! 1019d-1019f!
101a1-101cf! 101fe-1027f! 1029d-1029f! 102d1-102df! 102fc-102ff! 10324-1032c! 1034b-1034f!
1037b-1037f! 1039e! 103c4-103c7! 103d6-103ff! 10400-10427+28 1049e-1049f! 104aa-104af!
104b0-104d3+28 104d4-104d7! 104fc-104ff! 10528-1052f! 10564-1056e! 10570-1057a+27 1057b!
1057c-1058a+27 1058b! 1058c-10592+27 10593! 10594-10595+27 10596! 105a2! 105b2! 105ba!
105bd-105bf! 105f4-105ff! 10737-1073f! 10756-1075f! 10768-1077f! 10781-10782~104b1 10783~1069d
10784~104eb 10785~10532 10786! 10787~104e4 10788~5c22 10789~104e4 1078a~104e6 1078b-1078c~10535
1078d~e9fc 1078e~10536 1078f~10531 10790~104e7 10791~1052d 10792~10530 10793~10533 10794~104f9
10795~1066e 10796~104fa 10797~10530 10798~10514 10799-1079a~104ef 1079b~1052f 1079c+d768
1079d~600f 1079e~10530 1079f+d766 107a0~10512 107a1+d765 107a2~106aa 107a3-107a4~1052d
107a5~10734 107a6~1052c 107a7+d761 107a8-107a9~1052b 107aa~1052a 107ab~10503 107ac~10506
107ad~5c46 107ae~10507 107af~10527 107b0~db3f 107b1! 107b2~10523 107b3-107b4~10512 107b5~1051d
107b6-107b8~105f6 107b9+d751 107ba+d764 107bb~10534 107bc-107ff! 10806-10807! 10809! 10836!
10839-1083b! 1083d-1083e! 10856! 1089f-108a6! 108b0-108df! 108f3! 108f6-108fa! 1091c-1091e!
1093a-1093e! 1095a-1097f! 109b8-109bb! 109d0-109d1! 10a04! 10a07-10a0b! 10a14! 10a18!
10a36-10a37! 10a3b-10a3e! 10a49-10a4f! 10a59-10a5f! 10aa0-10abf! 10ae7-10aea! 10af7-10aff!
10b36-10b38! 10b56-10b57! 10b73-10b77! 10b92-10b98! 10b9d-10ba8! 10bb0-10bff! 10c49-10c7f!
10c80-10cb2+40 10cb3-10cbf! 10cf3-10cf9! 10d28-10d2f! 10d3a-10d3f! 10d50-10d65+20 10d66-10d68!
10d86-10d8d! 10d90-10e5f! 10e7f! 10eaa! 10eae-10eaf! 10eb2-10ec1! 10ec8-10ecf! 10eef-10ef9!
10f28-10f2f! 10f5a-10f6f! 10f8a-10faf! 10fcc-10fdf! 10ff7-10fff! 1104e-11051! 11076-1107e!
110bd! 110c3-110cf! 110e9-110ef! 110fa-110ff! 11135! 11148-1114f! 11177-1117f! 111e0!
111f5-111ff! 11212! 11242-1127f! 11287! 11289! 1128e! 1129e! 112aa-112af! 112eb-112ef!
112fa-112ff! 11304! 1130d-1130e! 11311-11312! 11329! 11331! 11334! 1133a! 11345-11346!
11349-1134a! 1134e-1134f! 11351-11356! 11358-1135c! 11364-11365! 1136d-1136f! 11375-1137f!
1138a! 1138c-1138d! 1138f! 113b6! 113c1! 113c3-113c4! 113c6! 113cb! 113d6! 113d9-113e0!
113e3-113ff! 1145c! 11462-1147f! 114c8-114cf! 114da-1157f! 115b6-115b7! 115de-115ff!
11645-1164f! 1165a-1165f! 1166d-1167f! 116ba-116bf! 116ca-116cf! 116e4-116ff! 1171b-1171c!
1172c-1172f! 11747-117ff! 1183c-1189f! 118a0-118bf+20 118f3-118fe! 11907-11908! 1190a-1190b!
11914! 11917! 11936! 11939-1193a! 11947-1194f! 1195a-1199f! 119a8-119a9! 119d8-119d9!
119e5-119ff! 11a48-11a4f! 11aa3-11aaf! 11af9-11aff! 11b0a-11b5f! 11b68-11bbf! 11be2-11bef!
11bfa-11bff! 11c09! 11c37! 11c46-11c4f! 11c6d-11c6f! 11c90-11c91! 11ca8! 11cb7-11cff! 11d07!
11d0a! 11d37-11d39! 11d3b! 11d3e! 11d48-11d4f! 11d5a-11d5f! 11d66! 11d69! 11d8f! 11d92!
11d99-11d9f! 11daa-11daf! 11ddc-11ddf! 11dea-11def! 11df2-11edf! 11ef9-11eff! 11f11!
11f3b-11f3d! 11f5b-11faf! 11fb1-11fbf! 11ff2-11ffe! 1239a-123ff! 12475-1247f! 12544-1254f!
12687-12f8f! 12ff3-12fff! 13430-1343f! 13456-1345f! 143fb-143ff! 14647-160ff! 1613a-167ff!
16a39-16a3f! 16a5f! 16a6a-16a6d! 16abf! 16aca-16acf! 16aee-16aef! 16af6-16aff! 16b46-16b4f!
16b5a! 16b62! 16b78-16b7c! 16b90-16d3f! 16d7a-16d7f! 16daa-16e3f! 16e40-16e5f+20 16e9b-16e9f!
16ea0-16eb8+1b 16eb9-16eba! 16ed4-16eff! 16f4b-16f4e! 16f88-16f8e! 16fa0-16fdf! 16fe5-16fef!
16ff7-16fff! 18cd6-18cfe! 18d21-18d7f! 18df3-18dff! 19192-1919f! 191d3-1afef! 1aff4! 1affc!
1afff! 1b123=30b7,30c6 1b124=30c8,30ad 1b125=30c8,30e2 1b126-1b131! 1b133-1b14f! 1b153-1b154!
1b156-1b163! 1b169-1b16f! 1b2fc-1bbff! 1bc6b-1bc6f! 1bc7d-1bc7f! 1bc89-1bc8f! 1bc9a-1bc9b!
1bca0-1bca3= 1bca4-1cbff! 1ccd6-1ccef~1cc75 1ccf0-1ccf9~1ccc0 1ccfd-1ccff! 1ceb4-1ceb9!
1ced3-1cedf! 1cef2-1ceff! 1cf2e-1cf2f! 1cf47-1cf4f! 1cfc4-1cfff! 1d0f6-1d0ff! 1d127-1d128!
1d173-1d17a= 1d246-1d24f! 1d290-1d2bf! 1d2d4-1d2df! 1d2f4-1d2ff! 1d357-1d35f! 1d379-1d3ff!
1d400-1d419~1d39f 1d41a-1d433~1d3b9 1d434-1d44d~1d3d3 1d44e-1d454~1d3ed 1d455! 1d456-1d467~1d3ed
1d468-1d481~1d407 1d482-1d49b~1d421 1d49c~1d43b 1d49d! 1d49e-1d49f~1d43b 1d4a0-1d4a1!
1d4a2~1d43b 1d4a3-1d4a4! 1d4a5-1d4a6~1d43b 1d4a7-1d4a8! 1d4a9-1d4ac~1d43b 1d4ad!
1d4ae-1d4b5~1d43b 1d4b6-1d4b9~1d455 1d4ba! 1d4bb~1d455 1d4bc! 1d4bd-1d4c3~1d455 1d4c4!
1d4c5-1d4cf~1d455 1d4d0-1d4e9~1d46f 1d4ea-1d503~1d489 1d504-1d505~1d4a3 1d506! 1d507-1d50a~1d4a3
1d50b-1d50c! 1d50d-1d514~1d4a3 1d515! 1d516-1d51c~1d4a3 1d51d! 1d51e-1d537~1d4bd
1d538-1d539~1d4d7 1d53a! 1d53b-1d53e~1d4d7 1d53f! 1d540-1d544~1d4d7 1d545! 1d546~1d4d7
1d547-1d549! 1d54a-1d550~1d4d7 1d551! 1d552-1d56b~1d4f1 1d56c-1d585~1d50b 1d586-1d59f~1d525
1d5a0-1d5b9~1d53f 1d5ba-1d5d3~1d559 1d5d4-1d5ed~1d573 1d5ee-1d607~1d58d 1d608-1d621~1d5a7
1d622-1d63b~1d5c1 1d63c-1d655~1d5db 1d656-1d66f~1d5f5 1d670-1d689~1d60f 1d68a-1d6a3~1d629
1d6a4~1d573 1d6a5~1d46e 1d6a6-1d6a7! 1d6a8-1d6b8~1d2f7 1d6b9~1d301 1d6ba-1d6c0~1d2f7 1d6c1~1b4ba
1d6c2-1d6d2~1d311 1d6d3~1d310 1d6d4-1d6da~1d311 1d6db~1b4d9 1d6dc~1d327 1d6dd~1d325 1d6de~1d324
1d6df~1d319 1d6e0~1d31f 1d6e1~1d321 1d6e2-1d6f2~1d331 1d6f3~1d33b 1d6f4-1d6fa~1d331 1d6fb~1b4f4
1d6fc-1d70c~1d34b 1d70d~1d34a 1d70e-1d714~1d34b 1d715~1b513 1d716~1d361 1d717~1d35f 1d718~1d35e
1d719~1d353 1d71a~1d359 1d71b~1d35b 1d71c-1d72c~1d36b 1d72d~1d375 1d72e-1d734~1d36b 1d735~1b52e
1d736-1d746~1d385 1d747~1d384 1d748-1d74e~1d385 1d74f~1b54d 1d750~1d39b 1d751~1d399 1d752~1d398
1d753~1d38d 1d754~1d393 1d755~1d395 1d756-1d766~1d3a5 1d767~1d3af 1d768-1d76e~1d3a5 1d76f~1b568
1d770-1d780~1d3bf 1d781~1d3be 1d782-1d788~1d3bf 1d789~1b587 1d78a~1d3d5 1d78b~1d3d3 1d78c~1d3d2
1d78d~1d3c7 1d78e~1d3cd 1d78f~1d3cf 1d790-1d7a0~1d3df 1d7a1~1d3e9 1d7a2-1d7a8~1d3df 1d7a9~1b5a2
1d7aa-1d7ba~1d3f9 1d7bb~1d3f8 1d7bc-1d7c2~1d3f9 1d7c3~1b5c1 1d7c4~1d40f 1d7c5~1d40d 1d7c6~1d40c
1d7c7~1d401 1d7c8~1d407 1d7c9~1d409 1d7ca~1d3ed 1d7cb~1d3ee 1d7cc-1d7cd! 1d7ce-1d7d7~1d79e
1d7d8-1d7e1~1d7a8 1d7e2-1d7eb~1d7b2 1d7ec-1d7f5~1d7bc 1d7f6-1d7ff~1d7c6 1da8c-1da9a! 1daa0!
1dab0-1daff! 1dc00-1deff! 1df1f-1df24! 1df2b-1dff5! 1dff6-1dfff~f6 1e007! 1e019-1e01a! 1e022!
1e025! 1e02b-1e02f! 1e030-1e038~1dc00 1e039-1e03b~1dbff 1e03c-1e046~1dbfe 1e047~1dbfc
1e048-1e049~1dbfb 1e04a~139c1 1e04b~1db72 1e04c~1dbf6 1e04d~1dbf5 1e04e~1db65 1e04f~1dba0
1e050~1db81 1e051-1e059~1dc21 1e05a-1e05b~1dc20 1e05c-1e05d~1dc1e 1e05e~1dc1d 1e05f-1e064~1dc1c
1e065-1e066~1dc1b 1e067~1dbd6 1e068~1dc12 1e069~1dc14 1e06a~1dc0b 1e06b~1dbc0 1e06c~13a1b
1e06d~1dbbc 1e06e-1e08e! 1e090-1e0ff! 1e12d-1e12f! 1e13e-1e13f! 1e14a-1e14d! 1e150-1e28f!
1e2af-1e2bf! 1e2fa-1e2fe! 1e300-1e4cf! 1e4fa-1e5cf! 1e5fb-1e5fe! 1e600-1e6bf! 1e6df!
1e6f6-1e6fd! 1e700-1e7df! 1e7e7! 1e7ec! 1e7ef! 1e7ff! 1e8c5-1e8c6! 1e8d7-1e8ff! 1e900-1e921+22
1e94c-1e94f! 1e95a-1e95d! 1e960-1ec70! 1ecb5-1ed00! 1ed3e-1edff! 1ee00-1ee01~1e7d9 1ee02~1e7d6
1ee03~1e7d4 1ee04! 1ee05~1e7bd 1ee06~1e7d4 1ee07~1e7da 1ee08~1e7d1 1ee09~1e7bf 1ee0a-1ee0d~1e7c7
1ee0e~1e7db 1ee0f~1e7d6 1ee10~1e7cf 1ee11~1e7dc 1ee12~1e7d0 1ee13~1e7e2 1ee14~1e7e0
1ee15-1ee16~1e7eb 1ee17~1e7e9 1ee18~1e7e8 1ee19~1e7e3 1ee1a~1e7e2 1ee1b~1e7e1 1ee1c~1e7ae
1ee1d~1e763 1ee1e~1e77d 1ee1f~1e7b0 1ee20! 1ee21~1e7f9 1ee22~1e7f6 1ee23! 1ee24~1e7dd
1ee25-1ee26! 1ee27~1e7fa 1ee28! 1ee29~1e7df 1ee2a-1ee2d~1e7e7 1ee2e~1e7fb 1ee2f~1e7f6
1ee30~1e7ef 1ee31~1e7fc 1ee32~1e7f0 1ee33! 1ee34~1e800 1ee35-1ee36~1e80b 1ee37~1e809 1ee38!
1ee39~1e803 1ee3a! 1ee3b~1e801 1ee3c-1ee41! 1ee42~1e816 1ee43-1ee46! 1ee47~1e81a 1ee48!
1ee49~1e7ff 1ee4a! 1ee4b~1e807 1ee4c! 1ee4d~1e807 1ee4e~1e81b 1ee4f~1e816 1ee50! 1ee51~1e81c
1ee52~1e810 1ee53! 1ee54~1e820 1ee55-1ee56! 1ee57~1e829 1ee58! 1ee59~1e823 1ee5a! 1ee5b~1e821
1ee5c! 1ee5d~1e7a3 1ee5e! 1ee5f~1e7f0 1ee60! 1ee61~1e839 1ee62~1e836 1ee63! 1ee64~1e81d
1ee65-1ee66! 1ee67~1e83a 1ee68~1e831 1ee69~1e81f 1ee6a~1e827 1ee6b! 1ee6c-1ee6d~1e827
1ee6e~1e83b 1ee6f~1e836 1ee70~1e82f 1ee71~1e83c 1ee72~1e830 1ee73! 1ee74~1e840 1ee75-1ee76~1e84b
1ee77~1e849 1ee78! 1ee79~1e843 1ee7a~1e842 1ee7b~1e841 1ee7c~1e80e 1ee7d! 1ee7e~1e7dd 1ee7f!
1ee80-1ee81~1e859 1ee82~1e856 1ee83~1e854 1ee84-1ee85~1e83d 1ee86~1e854 1ee87~1e85a 1ee88~1e851
1ee89~1e83f 1ee8a! 1ee8b-1ee8d~1e847 1ee8e~1e85b 1ee8f~1e856 1ee90~1e84f 1ee91~1e85c 1ee92~1e850
1ee93~1e862 1ee94~1e860 1ee95-1ee96~1e86b 1ee97~1e869 1ee98~1e868 1ee99~1e863 1ee9a~1e862
1ee9b~1e861 1ee9c-1eea0! 1eea1~1e879 1eea2~1e876 1eea3~1e874 1eea4! 1eea5~1e85d 1eea6~1e874
1eea7~1e87a 1eea8~1e871 1eea9~1e85f 1eeaa! 1eeab-1eead~1e867 1eeae~1e87b 1eeaf~1e876 1eeb0~1e86f
1eeb1~1e87c 1eeb2~1e870 1eeb3~1e882 1eeb4~1e880 1eeb5-1eeb6~1e88b 1eeb7~1e889 1eeb8~1e888
1eeb9~1e883 1eeba~1e882 1eebb~1e881 1eebc-1eeef! 1eef2-1efff! 1f02c-1f02f! 1f094-1f09f!
1f0af-1f0b0! 1f0c0! 1f0d0! 1f0f6-1f100! 1f101=30,2c 1f102=31,2c 1f103=32,2c 1f104=33,2c
1f105=34,2c 1f106=35,2c 1f107=36,2c 1f108=37,2c 1f109=38,2c 1f10a=39,2c 1f110=28,61,29
1f111=28,62,29 1f112=28,63,29 1f113=28,64,29 1f114=28,65,29 1f115=28,66,29 1f116=28,67,29
1f117=28,68,29 1f118=28,69,29 1f119=28,6a,29 1f11a=28,6b,29 1f11b=28,6c,29 1f11c=28,6d,29
1f11d=28,6e,29 1f11e=28,6f,29 1f11f=28,70,29 1f120=28,71,29 1f121=28,72,29 1f122=28,73,29
1f123=28,74,29 1f124=28,75,29 1f125=28,76,29 1f126=28,77,29 1f127=28,78,29 1f128=28,79,29
1f129=28,7a,29 1f12a=3014,73,3015 1f12b~1f0c8 1f12c~1f0ba 1f12d=63,64 1f12e=77,7a
1f130-1f149~1f0cf 1f14a=68,76 1f14b=6d,76 1f14c=73,64 1f14d=73,73 1f14e=70,70,76 1f14f=77,63
1f16a=6d,63 1f16b=6d,64 1f16c=6d,72 1f190=64,6a 1f1ae-1f1e5! 1f200=307b,304b 1f201=30b3,30b3
1f202~1c14d 1f203-1f20f! 1f210~18fc5 1f211~196ba 1f212~19e46 1f213~1c14c 1f214~1a388 1f215~198fb
1f216~16833 1f217~198ee 1f218~1a374 1f219~18bf9 1f21a~180f9 1f21b~18c82 1f21c~19fcf 1f21d~19291
1f21e~1a091 1f21f~18c6f 1f220~1a003 1f221~174df 1f222~17d03 1f223~1657a 1f224~19934 1f225~19dec
1f226~18312 1f227~18f92 1f228~18ed3 1f229~1a429 1f22a~1a421 1f22b~161e1 1f22c~19446 1f22d~1a400
1f22e~19e3b 1f22f~18f28 1f230~164c0 1f231~18fde 1f232~178b1 1f233~177b9 1f234~19e2c 1f235~183b5
1f236~18b2d 1f237~18b2f 1f238~17d05 1f239~19fc7 1f23a~19c84 1f23b~160ee 1f23c-1f23f!
1f240=3014,672c,3015 1f241=3014,4e09,3015 1f242=3014,4e8c,3015 1f243=3014,5b89,3015
1f244=3014,70b9,3015 1f245=3014,6253,3015 1f246=3014,76d7,3015 1f247=3014,52dd,3015
1f248=3014,6557,3015 1f249-1f24f! 1f250~192b9 1f251~19e62 1f252-1f25f! 1f266-1f2ff! 1f6da-1f6db!
1f6ed-1f6ef! 1f6fd-1f6ff! 1f7da-1f7df! 1f7ec-1f7ef! 1f7f1-1f7ff! 1f80c-1f80f! 1f848-1f84f!
1f85a-1f85f! 1f888-1f88f! 1f8ae-1f8af! 1f8bc-1f8bf! 1f8c2-1f8cf! 1f8d9-1f8ff! 1fa58-1fa5f!
1fa6e-1fa6f! 1fa7d-1fa7f! 1fac7! 1fac9-1facb! 1fade! 1faec-1faee! 1fafb-1faff! 1fb93!
1fbf0-1fbf9~1fbc0 1fbfb-1ffff! 2a6e0-2a6ff! 2b81f! 2ceae-2ceaf! 2ebe1-2ebef! 2ee5e-2f7ff!
2fa1e-2ffff! 3134b-3134f! 3347a-3cfff! 3fc40-e00ff! e0100-e01ef= e01f0-10ffff!"

/-- What becomes of a character, unless it is refused. -/
def fold? (c : Char) : Option (List Char) :=
  match foldings.find? c with
  | none => some [c]
  | some run => run.value.image? run.first c

end ProofGutter.Unicode
