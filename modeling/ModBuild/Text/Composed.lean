import ModBuild.Text.Ranges

/-!
# `ModBuild.Text.Composed`: letters with marks as single characters

Many letters with marks are characters of their own. The composed form of a text, after Unicode 17,
has its marks in a fixed order and uses such characters wherever there is one.

* `decomposed` takes a text apart, and `ordered` puts the marks in order.
* `composed` is the composed form.
-/

set_option autoImplicit false

namespace ModBuild.Text

/-- The characters that are composed of others, and these. -/
def composites : Array (Array Nat) := tableOf "
C0.41.300 C1.41.301 C2.41.302 C3.41.303 C4.41.308 C5.41.30A C7.43.327 C8.45.300 C9.45.301
CA.45.302 CB.45.308 CC.49.300 CD.49.301 CE.49.302 CF.49.308 D1.4E.303 D2.4F.300 D3.4F.301
D4.4F.302 D5.4F.303 D6.4F.308 D9.55.300 DA.55.301 DB.55.302 DC.55.308 DD.59.301 E0.61.300
E1.61.301 E2.61.302 E3.61.303 E4.61.308 E5.61.30A E7.63.327 E8.65.300 E9.65.301 EA.65.302
EB.65.308 EC.69.300 ED.69.301 EE.69.302 EF.69.308 F1.6E.303 F2.6F.300 F3.6F.301 F4.6F.302
F5.6F.303 F6.6F.308 F9.75.300 FA.75.301 FB.75.302 FC.75.308 FD.79.301 FF.79.308 100.41.304
101.61.304 102.41.306 103.61.306 104.41.328 105.61.328 106.43.301 107.63.301 108.43.302 109.63.302
10A.43.307 10B.63.307 10C.43.30C 10D.63.30C 10E.44.30C 10F.64.30C 112.45.304 113.65.304 114.45.306
115.65.306 116.45.307 117.65.307 118.45.328 119.65.328 11A.45.30C 11B.65.30C 11C.47.302 11D.67.302
11E.47.306 11F.67.306 120.47.307 121.67.307 122.47.327 123.67.327 124.48.302 125.68.302 128.49.303
129.69.303 12A.49.304 12B.69.304 12C.49.306 12D.69.306 12E.49.328 12F.69.328 130.49.307 134.4A.302
135.6A.302 136.4B.327 137.6B.327 139.4C.301 13A.6C.301 13B.4C.327 13C.6C.327 13D.4C.30C 13E.6C.30C
143.4E.301 144.6E.301 145.4E.327 146.6E.327 147.4E.30C 148.6E.30C 14C.4F.304 14D.6F.304 14E.4F.306
14F.6F.306 150.4F.30B 151.6F.30B 154.52.301 155.72.301 156.52.327 157.72.327 158.52.30C 159.72.30C
15A.53.301 15B.73.301 15C.53.302 15D.73.302 15E.53.327 15F.73.327 160.53.30C 161.73.30C 162.54.327
163.74.327 164.54.30C 165.74.30C 168.55.303 169.75.303 16A.55.304 16B.75.304 16C.55.306 16D.75.306
16E.55.30A 16F.75.30A 170.55.30B 171.75.30B 172.55.328 173.75.328 174.57.302 175.77.302 176.59.302
177.79.302 178.59.308 179.5A.301 17A.7A.301 17B.5A.307 17C.7A.307 17D.5A.30C 17E.7A.30C 1A0.4F.31B
1A1.6F.31B 1AF.55.31B 1B0.75.31B 1CD.41.30C 1CE.61.30C 1CF.49.30C 1D0.69.30C 1D1.4F.30C 1D2.6F.30C
1D3.55.30C 1D4.75.30C 1D5.55.308.304 1D6.75.308.304 1D7.55.308.301 1D8.75.308.301 1D9.55.308.30C
1DA.75.308.30C 1DB.55.308.300 1DC.75.308.300 1DE.41.308.304 1DF.61.308.304 1E0.41.307.304
1E1.61.307.304 1E2.C6.304 1E3.E6.304 1E6.47.30C 1E7.67.30C 1E8.4B.30C 1E9.6B.30C 1EA.4F.328
1EB.6F.328 1EC.4F.328.304 1ED.6F.328.304 1EE.1B7.30C 1EF.292.30C 1F0.6A.30C 1F4.47.301 1F5.67.301
1F8.4E.300 1F9.6E.300 1FA.41.30A.301 1FB.61.30A.301 1FC.C6.301 1FD.E6.301 1FE.D8.301 1FF.F8.301
200.41.30F 201.61.30F 202.41.311 203.61.311 204.45.30F 205.65.30F 206.45.311 207.65.311 208.49.30F
209.69.30F 20A.49.311 20B.69.311 20C.4F.30F 20D.6F.30F 20E.4F.311 20F.6F.311 210.52.30F 211.72.30F
212.52.311 213.72.311 214.55.30F 215.75.30F 216.55.311 217.75.311 218.53.326 219.73.326 21A.54.326
21B.74.326 21E.48.30C 21F.68.30C 226.41.307 227.61.307 228.45.327 229.65.327 22A.4F.308.304
22B.6F.308.304 22C.4F.303.304 22D.6F.303.304 22E.4F.307 22F.6F.307 230.4F.307.304 231.6F.307.304
232.59.304 233.79.304 385.A8.301 386.391.301 388.395.301 389.397.301 38A.399.301 38C.39F.301
38E.3A5.301 38F.3A9.301 390.3B9.308.301 3AA.399.308 3AB.3A5.308 3AC.3B1.301 3AD.3B5.301
3AE.3B7.301 3AF.3B9.301 3B0.3C5.308.301 3CA.3B9.308 3CB.3C5.308 3CC.3BF.301 3CD.3C5.301
3CE.3C9.301 3D3.3D2.301 3D4.3D2.308 400.415.300 401.415.308 403.413.301 407.406.308 40C.41A.301
40D.418.300 40E.423.306 419.418.306 439.438.306 450.435.300 451.435.308 453.433.301 457.456.308
45C.43A.301 45D.438.300 45E.443.306 476.474.30F 477.475.30F 4C1.416.306 4C2.436.306 4D0.410.306
4D1.430.306 4D2.410.308 4D3.430.308 4D6.415.306 4D7.435.306 4DA.4D8.308 4DB.4D9.308 4DC.416.308
4DD.436.308 4DE.417.308 4DF.437.308 4E2.418.304 4E3.438.304 4E4.418.308 4E5.438.308 4E6.41E.308
4E7.43E.308 4EA.4E8.308 4EB.4E9.308 4EC.42D.308 4ED.44D.308 4EE.423.304 4EF.443.304 4F0.423.308
4F1.443.308 4F2.423.30B 4F3.443.30B 4F4.427.308 4F5.447.308 4F8.42B.308 4F9.44B.308 622.627.653
623.627.654 624.648.654 625.627.655 626.64A.654 6C0.6D5.654 6C2.6C1.654 6D3.6D2.654 929.928.93C
931.930.93C 934.933.93C 9CB.9C7.9BE 9CC.9C7.9D7 B48.B47.B56 B4B.B47.B3E B4C.B47.B57 B94.B92.BD7
BCA.BC6.BBE BCB.BC7.BBE BCC.BC6.BD7 C48.C46.C56 CC0.CBF.CD5 CC7.CC6.CD5 CC8.CC6.CD6 CCA.CC6.CC2
CCB.CC6.CC2.CD5 D4A.D46.D3E D4B.D47.D3E D4C.D46.D57 DDA.DD9.DCA DDC.DD9.DCF DDD.DD9.DCF.DCA
DDE.DD9.DDF 1026.1025.102E 1B06.1B05.1B35 1B08.1B07.1B35 1B0A.1B09.1B35 1B0C.1B0B.1B35
1B0E.1B0D.1B35 1B12.1B11.1B35 1B3B.1B3A.1B35 1B3D.1B3C.1B35 1B40.1B3E.1B35 1B41.1B3F.1B35
1B43.1B42.1B35 1E00.41.325 1E01.61.325 1E02.42.307 1E03.62.307 1E04.42.323 1E05.62.323 1E06.42.331
1E07.62.331 1E08.43.327.301 1E09.63.327.301 1E0A.44.307 1E0B.64.307 1E0C.44.323 1E0D.64.323
1E0E.44.331 1E0F.64.331 1E10.44.327 1E11.64.327 1E12.44.32D 1E13.64.32D 1E14.45.304.300
1E15.65.304.300 1E16.45.304.301 1E17.65.304.301 1E18.45.32D 1E19.65.32D 1E1A.45.330 1E1B.65.330
1E1C.45.327.306 1E1D.65.327.306 1E1E.46.307 1E1F.66.307 1E20.47.304 1E21.67.304 1E22.48.307
1E23.68.307 1E24.48.323 1E25.68.323 1E26.48.308 1E27.68.308 1E28.48.327 1E29.68.327 1E2A.48.32E
1E2B.68.32E 1E2C.49.330 1E2D.69.330 1E2E.49.308.301 1E2F.69.308.301 1E30.4B.301 1E31.6B.301
1E32.4B.323 1E33.6B.323 1E34.4B.331 1E35.6B.331 1E36.4C.323 1E37.6C.323 1E38.4C.323.304
1E39.6C.323.304 1E3A.4C.331 1E3B.6C.331 1E3C.4C.32D 1E3D.6C.32D 1E3E.4D.301 1E3F.6D.301
1E40.4D.307 1E41.6D.307 1E42.4D.323 1E43.6D.323 1E44.4E.307 1E45.6E.307 1E46.4E.323 1E47.6E.323
1E48.4E.331 1E49.6E.331 1E4A.4E.32D 1E4B.6E.32D 1E4C.4F.303.301 1E4D.6F.303.301 1E4E.4F.303.308
1E4F.6F.303.308 1E50.4F.304.300 1E51.6F.304.300 1E52.4F.304.301 1E53.6F.304.301 1E54.50.301
1E55.70.301 1E56.50.307 1E57.70.307 1E58.52.307 1E59.72.307 1E5A.52.323 1E5B.72.323
1E5C.52.323.304 1E5D.72.323.304 1E5E.52.331 1E5F.72.331 1E60.53.307 1E61.73.307 1E62.53.323
1E63.73.323 1E64.53.301.307 1E65.73.301.307 1E66.53.30C.307 1E67.73.30C.307 1E68.53.323.307
1E69.73.323.307 1E6A.54.307 1E6B.74.307 1E6C.54.323 1E6D.74.323 1E6E.54.331 1E6F.74.331
1E70.54.32D 1E71.74.32D 1E72.55.324 1E73.75.324 1E74.55.330 1E75.75.330 1E76.55.32D 1E77.75.32D
1E78.55.303.301 1E79.75.303.301 1E7A.55.304.308 1E7B.75.304.308 1E7C.56.303 1E7D.76.303
1E7E.56.323 1E7F.76.323 1E80.57.300 1E81.77.300 1E82.57.301 1E83.77.301 1E84.57.308 1E85.77.308
1E86.57.307 1E87.77.307 1E88.57.323 1E89.77.323 1E8A.58.307 1E8B.78.307 1E8C.58.308 1E8D.78.308
1E8E.59.307 1E8F.79.307 1E90.5A.302 1E91.7A.302 1E92.5A.323 1E93.7A.323 1E94.5A.331 1E95.7A.331
1E96.68.331 1E97.74.308 1E98.77.30A 1E99.79.30A 1E9B.17F.307 1EA0.41.323 1EA1.61.323 1EA2.41.309
1EA3.61.309 1EA4.41.302.301 1EA5.61.302.301 1EA6.41.302.300 1EA7.61.302.300 1EA8.41.302.309
1EA9.61.302.309 1EAA.41.302.303 1EAB.61.302.303 1EAC.41.323.302 1EAD.61.323.302 1EAE.41.306.301
1EAF.61.306.301 1EB0.41.306.300 1EB1.61.306.300 1EB2.41.306.309 1EB3.61.306.309 1EB4.41.306.303
1EB5.61.306.303 1EB6.41.323.306 1EB7.61.323.306 1EB8.45.323 1EB9.65.323 1EBA.45.309 1EBB.65.309
1EBC.45.303 1EBD.65.303 1EBE.45.302.301 1EBF.65.302.301 1EC0.45.302.300 1EC1.65.302.300
1EC2.45.302.309 1EC3.65.302.309 1EC4.45.302.303 1EC5.65.302.303 1EC6.45.323.302 1EC7.65.323.302
1EC8.49.309 1EC9.69.309 1ECA.49.323 1ECB.69.323 1ECC.4F.323 1ECD.6F.323 1ECE.4F.309 1ECF.6F.309
1ED0.4F.302.301 1ED1.6F.302.301 1ED2.4F.302.300 1ED3.6F.302.300 1ED4.4F.302.309 1ED5.6F.302.309
1ED6.4F.302.303 1ED7.6F.302.303 1ED8.4F.323.302 1ED9.6F.323.302 1EDA.4F.31B.301 1EDB.6F.31B.301
1EDC.4F.31B.300 1EDD.6F.31B.300 1EDE.4F.31B.309 1EDF.6F.31B.309 1EE0.4F.31B.303 1EE1.6F.31B.303
1EE2.4F.31B.323 1EE3.6F.31B.323 1EE4.55.323 1EE5.75.323 1EE6.55.309 1EE7.75.309 1EE8.55.31B.301
1EE9.75.31B.301 1EEA.55.31B.300 1EEB.75.31B.300 1EEC.55.31B.309 1EED.75.31B.309 1EEE.55.31B.303
1EEF.75.31B.303 1EF0.55.31B.323 1EF1.75.31B.323 1EF2.59.300 1EF3.79.300 1EF4.59.323 1EF5.79.323
1EF6.59.309 1EF7.79.309 1EF8.59.303 1EF9.79.303 1F00.3B1.313 1F01.3B1.314 1F02.3B1.313.300
1F03.3B1.314.300 1F04.3B1.313.301 1F05.3B1.314.301 1F06.3B1.313.342 1F07.3B1.314.342 1F08.391.313
1F09.391.314 1F0A.391.313.300 1F0B.391.314.300 1F0C.391.313.301 1F0D.391.314.301 1F0E.391.313.342
1F0F.391.314.342 1F10.3B5.313 1F11.3B5.314 1F12.3B5.313.300 1F13.3B5.314.300 1F14.3B5.313.301
1F15.3B5.314.301 1F18.395.313 1F19.395.314 1F1A.395.313.300 1F1B.395.314.300 1F1C.395.313.301
1F1D.395.314.301 1F20.3B7.313 1F21.3B7.314 1F22.3B7.313.300 1F23.3B7.314.300 1F24.3B7.313.301
1F25.3B7.314.301 1F26.3B7.313.342 1F27.3B7.314.342 1F28.397.313 1F29.397.314 1F2A.397.313.300
1F2B.397.314.300 1F2C.397.313.301 1F2D.397.314.301 1F2E.397.313.342 1F2F.397.314.342 1F30.3B9.313
1F31.3B9.314 1F32.3B9.313.300 1F33.3B9.314.300 1F34.3B9.313.301 1F35.3B9.314.301 1F36.3B9.313.342
1F37.3B9.314.342 1F38.399.313 1F39.399.314 1F3A.399.313.300 1F3B.399.314.300 1F3C.399.313.301
1F3D.399.314.301 1F3E.399.313.342 1F3F.399.314.342 1F40.3BF.313 1F41.3BF.314 1F42.3BF.313.300
1F43.3BF.314.300 1F44.3BF.313.301 1F45.3BF.314.301 1F48.39F.313 1F49.39F.314 1F4A.39F.313.300
1F4B.39F.314.300 1F4C.39F.313.301 1F4D.39F.314.301 1F50.3C5.313 1F51.3C5.314 1F52.3C5.313.300
1F53.3C5.314.300 1F54.3C5.313.301 1F55.3C5.314.301 1F56.3C5.313.342 1F57.3C5.314.342 1F59.3A5.314
1F5B.3A5.314.300 1F5D.3A5.314.301 1F5F.3A5.314.342 1F60.3C9.313 1F61.3C9.314 1F62.3C9.313.300
1F63.3C9.314.300 1F64.3C9.313.301 1F65.3C9.314.301 1F66.3C9.313.342 1F67.3C9.314.342 1F68.3A9.313
1F69.3A9.314 1F6A.3A9.313.300 1F6B.3A9.314.300 1F6C.3A9.313.301 1F6D.3A9.314.301 1F6E.3A9.313.342
1F6F.3A9.314.342 1F70.3B1.300 1F72.3B5.300 1F74.3B7.300 1F76.3B9.300 1F78.3BF.300 1F7A.3C5.300
1F7C.3C9.300 1F80.3B1.313.345 1F81.3B1.314.345 1F82.3B1.313.300.345 1F83.3B1.314.300.345
1F84.3B1.313.301.345 1F85.3B1.314.301.345 1F86.3B1.313.342.345 1F87.3B1.314.342.345
1F88.391.313.345 1F89.391.314.345 1F8A.391.313.300.345 1F8B.391.314.300.345 1F8C.391.313.301.345
1F8D.391.314.301.345 1F8E.391.313.342.345 1F8F.391.314.342.345 1F90.3B7.313.345 1F91.3B7.314.345
1F92.3B7.313.300.345 1F93.3B7.314.300.345 1F94.3B7.313.301.345 1F95.3B7.314.301.345
1F96.3B7.313.342.345 1F97.3B7.314.342.345 1F98.397.313.345 1F99.397.314.345 1F9A.397.313.300.345
1F9B.397.314.300.345 1F9C.397.313.301.345 1F9D.397.314.301.345 1F9E.397.313.342.345
1F9F.397.314.342.345 1FA0.3C9.313.345 1FA1.3C9.314.345 1FA2.3C9.313.300.345 1FA3.3C9.314.300.345
1FA4.3C9.313.301.345 1FA5.3C9.314.301.345 1FA6.3C9.313.342.345 1FA7.3C9.314.342.345
1FA8.3A9.313.345 1FA9.3A9.314.345 1FAA.3A9.313.300.345 1FAB.3A9.314.300.345 1FAC.3A9.313.301.345
1FAD.3A9.314.301.345 1FAE.3A9.313.342.345 1FAF.3A9.314.342.345 1FB0.3B1.306 1FB1.3B1.304
1FB2.3B1.300.345 1FB3.3B1.345 1FB4.3B1.301.345 1FB6.3B1.342 1FB7.3B1.342.345 1FB8.391.306
1FB9.391.304 1FBA.391.300 1FBC.391.345 1FC1.A8.342 1FC2.3B7.300.345 1FC3.3B7.345 1FC4.3B7.301.345
1FC6.3B7.342 1FC7.3B7.342.345 1FC8.395.300 1FCA.397.300 1FCC.397.345 1FCD.1FBF.300 1FCE.1FBF.301
1FCF.1FBF.342 1FD0.3B9.306 1FD1.3B9.304 1FD2.3B9.308.300 1FD6.3B9.342 1FD7.3B9.308.342
1FD8.399.306 1FD9.399.304 1FDA.399.300 1FDD.1FFE.300 1FDE.1FFE.301 1FDF.1FFE.342 1FE0.3C5.306
1FE1.3C5.304 1FE2.3C5.308.300 1FE4.3C1.313 1FE5.3C1.314 1FE6.3C5.342 1FE7.3C5.308.342 1FE8.3A5.306
1FE9.3A5.304 1FEA.3A5.300 1FEC.3A1.314 1FED.A8.300 1FF2.3C9.300.345 1FF3.3C9.345 1FF4.3C9.301.345
1FF6.3C9.342 1FF7.3C9.342.345 1FF8.39F.300 1FFA.3A9.300 1FFC.3A9.345 219A.2190.338 219B.2192.338
21AE.2194.338 21CD.21D0.338 21CE.21D4.338 21CF.21D2.338 2204.2203.338 2209.2208.338 220C.220B.338
2224.2223.338 2226.2225.338 2241.223C.338 2244.2243.338 2247.2245.338 2249.2248.338 2260.3D.338
2262.2261.338 226D.224D.338 226E.3C.338 226F.3E.338 2270.2264.338 2271.2265.338 2274.2272.338
2275.2273.338 2278.2276.338 2279.2277.338 2280.227A.338 2281.227B.338 2284.2282.338 2285.2283.338
2288.2286.338 2289.2287.338 22AC.22A2.338 22AD.22A8.338 22AE.22A9.338 22AF.22AB.338 22E0.227C.338
22E1.227D.338 22E2.2291.338 22E3.2292.338 22EA.22B2.338 22EB.22B3.338 22EC.22B4.338 22ED.22B5.338
304C.304B.3099 304E.304D.3099 3050.304F.3099 3052.3051.3099 3054.3053.3099 3056.3055.3099
3058.3057.3099 305A.3059.3099 305C.305B.3099 305E.305D.3099 3060.305F.3099 3062.3061.3099
3065.3064.3099 3067.3066.3099 3069.3068.3099 3070.306F.3099 3071.306F.309A 3073.3072.3099
3074.3072.309A 3076.3075.3099 3077.3075.309A 3079.3078.3099 307A.3078.309A 307C.307B.3099
307D.307B.309A 3094.3046.3099 309E.309D.3099 30AC.30AB.3099 30AE.30AD.3099 30B0.30AF.3099
30B2.30B1.3099 30B4.30B3.3099 30B6.30B5.3099 30B8.30B7.3099 30BA.30B9.3099 30BC.30BB.3099
30BE.30BD.3099 30C0.30BF.3099 30C2.30C1.3099 30C5.30C4.3099 30C7.30C6.3099 30C9.30C8.3099
30D0.30CF.3099 30D1.30CF.309A 30D3.30D2.3099 30D4.30D2.309A 30D6.30D5.3099 30D7.30D5.309A
30D9.30D8.3099 30DA.30D8.309A 30DC.30DB.3099 30DD.30DB.309A 30F4.30A6.3099 30F7.30EF.3099
30F8.30F0.3099 30F9.30F1.3099 30FA.30F2.3099 30FE.30FD.3099 105C9.105D2.307 105E4.105DA.307
1109A.11099.110BA 1109C.1109B.110BA 110AB.110A5.110BA 1112E.11131.11127 1112F.11132.11127
1134B.11347.1133E 1134C.11347.11357 11383.11382.113C9 11385.11384.113BB 1138E.1138B.113C2
11391.11390.113C9 113C5.113C2.113C2 113C7.113C2.113B8 113C8.113C2.113C9 114BB.114B9.114BA
114BC.114B9.114B0 114BE.114B9.114BD 115BA.115B8.115AF 115BB.115B9.115AF 11938.11935.11930
16121.1611E.1611E 16122.1611E.16129 16123.1611E.1611F 16124.16129.1611F 16125.1611E.16120
16126.1611E.1611E.1611F 16127.1611E.16129.1611F 16128.1611E.1611E.16120 16D68.16D67.16D67
16D69.16D63.16D67 16D6A.16D63.16D67.16D67"

/-- The characters that one other character always takes the place of, in runs: the first of a run,
the last, the step, and the image of the first. -/
def replacedByOne : Array (Array Nat) := tableOf "
340.341.1.300 343.343.1.313 374.374.1.2B9 37E.37E.1.3B 387.387.1.B7 1FBE.1FBE.1.3B9 1FEF.1FEF.1.60
1FFD.1FFD.1.B4 2000.2001.1.2002 2126.2126.1.3A9 212A.212A.1.4B 2329.232A.1.3008 F900.F900.1.8C48
F901.F901.1.66F4 F902.F902.1.8ECA F903.F903.1.8CC8 F904.F904.1.6ED1 F905.F905.1.4E32
F906.F906.1.53E5 F907.F907.1.9F9C F908.F908.1.9F9C F909.F909.1.5951 F90A.F90A.1.91D1
F90B.F90B.1.5587 F90C.F90C.1.5948 F90D.F90D.1.61F6 F90E.F90E.1.7669 F90F.F90F.1.7F85
F910.F910.1.863F F911.F911.1.87BA F912.F912.1.88F8 F913.F913.1.908F F914.F914.1.6A02
F915.F915.1.6D1B F916.F916.1.70D9 F917.F917.1.73DE F918.F918.1.843D F919.F919.1.916A
F91A.F91A.1.99F1 F91B.F91B.1.4E82 F91C.F91C.1.5375 F91D.F91D.1.6B04 F91E.F91E.1.721B
F91F.F91F.1.862D F920.F920.1.9E1E F921.F921.1.5D50 F922.F922.1.6FEB F923.F923.1.85CD
F924.F924.1.8964 F925.F925.1.62C9 F926.F926.1.81D8 F927.F927.1.881F F928.F928.1.5ECA
F929.F929.1.6717 F92A.F92A.1.6D6A F92B.F92B.1.72FC F92C.F92C.1.90CE F92D.F92D.1.4F86
F92E.F92E.1.51B7 F92F.F92F.1.52DE F930.F930.1.64C4 F931.F931.1.6AD3 F932.F932.1.7210
F933.F933.1.76E7 F934.F934.1.8001 F935.F935.1.8606 F936.F936.1.865C F937.F937.1.8DEF
F938.F938.1.9732 F939.F939.1.9B6F F93A.F93A.1.9DFA F93B.F93B.1.788C F93C.F93C.1.797F
F93D.F93D.1.7DA0 F93E.F93E.1.83C9 F93F.F93F.1.9304 F940.F940.1.9E7F F941.F941.1.8AD6
F942.F942.1.58DF F943.F943.1.5F04 F944.F944.1.7C60 F945.F945.1.807E F946.F946.1.7262
F947.F947.1.78CA F948.F948.1.8CC2 F949.F949.1.96F7 F94A.F94A.1.58D8 F94B.F94B.1.5C62
F94C.F94C.1.6A13 F94D.F94D.1.6DDA F94E.F94E.1.6F0F F94F.F94F.1.7D2F F950.F950.1.7E37
F951.F951.1.964B F952.F952.1.52D2 F953.F953.1.808B F954.F954.1.51DC F955.F955.1.51CC
F956.F956.1.7A1C F957.F957.1.7DBE F958.F958.1.83F1 F959.F959.1.9675 F95A.F95A.1.8B80
F95B.F95B.1.62CF F95C.F95C.1.6A02 F95D.F95D.1.8AFE F95E.F95E.1.4E39 F95F.F95F.1.5BE7
F960.F960.1.6012 F961.F961.1.7387 F962.F962.1.7570 F963.F963.1.5317 F964.F964.1.78FB
F965.F965.1.4FBF F966.F966.1.5FA9 F967.F967.1.4E0D F968.F968.1.6CCC F969.F969.1.6578
F96A.F96A.1.7D22 F96B.F96B.1.53C3 F96C.F96C.1.585E F96D.F96D.1.7701 F96E.F96E.1.8449
F96F.F96F.1.8AAA F970.F970.1.6BBA F971.F971.1.8FB0 F972.F972.1.6C88 F973.F973.1.62FE
F974.F974.1.82E5 F975.F975.1.63A0 F976.F976.1.7565 F977.F977.1.4EAE F978.F978.1.5169
F979.F979.1.51C9 F97A.F97A.1.6881 F97B.F97B.1.7CE7 F97C.F97C.1.826F F97D.F97D.1.8AD2
F97E.F97E.1.91CF F97F.F97F.1.52F5 F980.F980.1.5442 F981.F981.1.5973 F982.F982.1.5EEC
F983.F983.1.65C5 F984.F984.1.6FFE F985.F985.1.792A F986.F986.1.95AD F987.F987.1.9A6A
F988.F988.1.9E97 F989.F989.1.9ECE F98A.F98A.1.529B F98B.F98B.1.66C6 F98C.F98C.1.6B77
F98D.F98D.1.8F62 F98E.F98E.1.5E74 F98F.F98F.1.6190 F990.F990.1.6200 F991.F991.1.649A
F992.F992.1.6F23 F993.F993.1.7149 F994.F994.1.7489 F995.F995.1.79CA F996.F996.1.7DF4
F997.F997.1.806F F998.F998.1.8F26 F999.F999.1.84EE F99A.F99A.1.9023 F99B.F99B.1.934A
F99C.F99C.1.5217 F99D.F99D.1.52A3 F99E.F99E.1.54BD F99F.F99F.1.70C8 F9A0.F9A0.1.88C2
F9A1.F9A1.1.8AAA F9A2.F9A2.1.5EC9 F9A3.F9A3.1.5FF5 F9A4.F9A4.1.637B F9A5.F9A5.1.6BAE
F9A6.F9A6.1.7C3E F9A7.F9A7.1.7375 F9A8.F9A8.1.4EE4 F9A9.F9A9.1.56F9 F9AA.F9AA.1.5BE7
F9AB.F9AB.1.5DBA F9AC.F9AC.1.601C F9AD.F9AD.1.73B2 F9AE.F9AE.1.7469 F9AF.F9AF.1.7F9A
F9B0.F9B0.1.8046 F9B1.F9B1.1.9234 F9B2.F9B2.1.96F6 F9B3.F9B3.1.9748 F9B4.F9B4.1.9818
F9B5.F9B5.1.4F8B F9B6.F9B6.1.79AE F9B7.F9B7.1.91B4 F9B8.F9B8.1.96B8 F9B9.F9B9.1.60E1
F9BA.F9BA.1.4E86 F9BB.F9BB.1.50DA F9BC.F9BC.1.5BEE F9BD.F9BD.1.5C3F F9BE.F9BE.1.6599
F9BF.F9BF.1.6A02 F9C0.F9C0.1.71CE F9C1.F9C1.1.7642 F9C2.F9C2.1.84FC F9C3.F9C3.1.907C
F9C4.F9C4.1.9F8D F9C5.F9C5.1.6688 F9C6.F9C6.1.962E F9C7.F9C7.1.5289 F9C8.F9C8.1.677B
F9C9.F9C9.1.67F3 F9CA.F9CA.1.6D41 F9CB.F9CB.1.6E9C F9CC.F9CC.1.7409 F9CD.F9CD.1.7559
F9CE.F9CE.1.786B F9CF.F9CF.1.7D10 F9D0.F9D0.1.985E F9D1.F9D1.1.516D F9D2.F9D2.1.622E
F9D3.F9D3.1.9678 F9D4.F9D4.1.502B F9D5.F9D5.1.5D19 F9D6.F9D6.1.6DEA F9D7.F9D7.1.8F2A
F9D8.F9D8.1.5F8B F9D9.F9D9.1.6144 F9DA.F9DA.1.6817 F9DB.F9DB.1.7387 F9DC.F9DC.1.9686
F9DD.F9DD.1.5229 F9DE.F9DE.1.540F F9DF.F9DF.1.5C65 F9E0.F9E0.1.6613 F9E1.F9E1.1.674E
F9E2.F9E2.1.68A8 F9E3.F9E3.1.6CE5 F9E4.F9E4.1.7406 F9E5.F9E5.1.75E2 F9E6.F9E6.1.7F79
F9E7.F9E7.1.88CF F9E8.F9E8.1.88E1 F9E9.F9E9.1.91CC F9EA.F9EA.1.96E2 F9EB.F9EB.1.533F
F9EC.F9EC.1.6EBA F9ED.F9ED.1.541D F9EE.F9EE.1.71D0 F9EF.F9EF.1.7498 F9F0.F9F0.1.85FA
F9F1.F9F1.1.96A3 F9F2.F9F2.1.9C57 F9F3.F9F3.1.9E9F F9F4.F9F4.1.6797 F9F5.F9F5.1.6DCB
F9F6.F9F6.1.81E8 F9F7.F9F7.1.7ACB F9F8.F9F8.1.7B20 F9F9.F9F9.1.7C92 F9FA.F9FA.1.72C0
F9FB.F9FB.1.7099 F9FC.F9FC.1.8B58 F9FD.F9FD.1.4EC0 F9FE.F9FE.1.8336 F9FF.F9FF.1.523A
FA00.FA00.1.5207 FA01.FA01.1.5EA6 FA02.FA02.1.62D3 FA03.FA03.1.7CD6 FA04.FA04.1.5B85
FA05.FA05.1.6D1E FA06.FA06.1.66B4 FA07.FA07.1.8F3B FA08.FA08.1.884C FA09.FA09.1.964D
FA0A.FA0A.1.898B FA0B.FA0B.1.5ED3 FA0C.FA0C.1.5140 FA0D.FA0D.1.55C0 FA10.FA10.1.585A
FA12.FA12.1.6674 FA15.FA15.1.51DE FA16.FA16.1.732A FA17.FA17.1.76CA FA18.FA18.1.793C
FA19.FA19.1.795E FA1A.FA1A.1.7965 FA1B.FA1B.1.798F FA1C.FA1C.1.9756 FA1D.FA1D.1.7CBE
FA1E.FA1E.1.7FBD FA20.FA20.1.8612 FA22.FA22.1.8AF8 FA25.FA25.1.9038 FA26.FA26.1.90FD
FA2A.FA2A.1.98EF FA2B.FA2B.1.98FC FA2C.FA2C.1.9928 FA2D.FA2D.1.9DB4 FA2E.FA2E.1.90DE
FA2F.FA2F.1.96B7 FA30.FA30.1.4FAE FA31.FA31.1.50E7 FA32.FA32.1.514D FA33.FA33.1.52C9
FA34.FA34.1.52E4 FA35.FA35.1.5351 FA36.FA36.1.559D FA37.FA37.1.5606 FA38.FA38.1.5668
FA39.FA39.1.5840 FA3A.FA3A.1.58A8 FA3B.FA3B.1.5C64 FA3C.FA3C.1.5C6E FA3D.FA3D.1.6094
FA3E.FA3E.1.6168 FA3F.FA3F.1.618E FA40.FA40.1.61F2 FA41.FA41.1.654F FA42.FA42.1.65E2
FA43.FA43.1.6691 FA44.FA44.1.6885 FA45.FA45.1.6D77 FA46.FA46.1.6E1A FA47.FA47.1.6F22
FA48.FA48.1.716E FA49.FA49.1.722B FA4A.FA4A.1.7422 FA4B.FA4B.1.7891 FA4C.FA4C.1.793E
FA4D.FA4D.1.7949 FA4E.FA4E.1.7948 FA4F.FA4F.1.7950 FA50.FA50.1.7956 FA51.FA51.1.795D
FA52.FA53.1.798D FA54.FA54.1.7A40 FA55.FA55.1.7A81 FA56.FA56.1.7BC0 FA57.FA57.1.7DF4
FA58.FA58.1.7E09 FA59.FA59.1.7E41 FA5A.FA5A.1.7F72 FA5B.FA5B.1.8005 FA5C.FA5C.1.81ED
FA5D.FA5D.1.8279 FA5E.FA5E.1.8279 FA5F.FA5F.1.8457 FA60.FA60.1.8910 FA61.FA61.1.8996
FA62.FA62.1.8B01 FA63.FA63.1.8B39 FA64.FA64.1.8CD3 FA65.FA65.1.8D08 FA66.FA66.1.8FB6
FA67.FA67.1.9038 FA68.FA68.1.96E3 FA69.FA69.1.97FF FA6A.FA6A.1.983B FA6B.FA6B.1.6075
FA6C.FA6C.1.242EE FA6D.FA6D.1.8218 FA70.FA70.1.4E26 FA71.FA71.1.51B5 FA72.FA72.1.5168
FA73.FA73.1.4F80 FA74.FA74.1.5145 FA75.FA75.1.5180 FA76.FA76.1.52C7 FA77.FA77.1.52FA
FA78.FA78.1.559D FA79.FA79.1.5555 FA7A.FA7A.1.5599 FA7B.FA7B.1.55E2 FA7C.FA7C.1.585A
FA7D.FA7D.1.58B3 FA7E.FA7E.1.5944 FA7F.FA7F.1.5954 FA80.FA80.1.5A62 FA81.FA81.1.5B28
FA82.FA82.1.5ED2 FA83.FA83.1.5ED9 FA84.FA84.1.5F69 FA85.FA85.1.5FAD FA86.FA86.1.60D8
FA87.FA87.1.614E FA88.FA88.1.6108 FA89.FA89.1.618E FA8A.FA8A.1.6160 FA8B.FA8B.1.61F2
FA8C.FA8C.1.6234 FA8D.FA8D.1.63C4 FA8E.FA8E.1.641C FA8F.FA8F.1.6452 FA90.FA90.1.6556
FA91.FA91.1.6674 FA92.FA92.1.6717 FA93.FA93.1.671B FA94.FA94.1.6756 FA95.FA95.1.6B79
FA96.FA96.1.6BBA FA97.FA97.1.6D41 FA98.FA98.1.6EDB FA99.FA99.1.6ECB FA9A.FA9A.1.6F22
FA9B.FA9B.1.701E FA9C.FA9C.1.716E FA9D.FA9D.1.77A7 FA9E.FA9E.1.7235 FA9F.FA9F.1.72AF
FAA0.FAA0.1.732A FAA1.FAA1.1.7471 FAA2.FAA2.1.7506 FAA3.FAA3.1.753B FAA4.FAA4.1.761D
FAA5.FAA5.1.761F FAA6.FAA6.1.76CA FAA7.FAA7.1.76DB FAA8.FAA8.1.76F4 FAA9.FAA9.1.774A
FAAA.FAAA.1.7740 FAAB.FAAB.1.78CC FAAC.FAAC.1.7AB1 FAAD.FAAD.1.7BC0 FAAE.FAAE.1.7C7B
FAAF.FAAF.1.7D5B FAB0.FAB0.1.7DF4 FAB1.FAB1.1.7F3E FAB2.FAB2.1.8005 FAB3.FAB3.1.8352
FAB4.FAB4.1.83EF FAB5.FAB5.1.8779 FAB6.FAB6.1.8941 FAB7.FAB7.1.8986 FAB8.FAB8.1.8996
FAB9.FAB9.1.8ABF FABA.FABA.1.8AF8 FABB.FABB.1.8ACB FABC.FABC.1.8B01 FABD.FABD.1.8AFE
FABE.FABE.1.8AED FABF.FABF.1.8B39 FAC0.FAC0.1.8B8A FAC1.FAC1.1.8D08 FAC2.FAC2.1.8F38
FAC3.FAC3.1.9072 FAC4.FAC4.1.9199 FAC5.FAC5.1.9276 FAC6.FAC6.1.967C FAC7.FAC7.1.96E3
FAC8.FAC8.1.9756 FAC9.FAC9.1.97DB FACA.FACA.1.97FF FACB.FACB.1.980B FACC.FACC.1.983B
FACD.FACD.1.9B12 FACE.FACE.1.9F9C FACF.FACF.1.2284A FAD0.FAD0.1.22844 FAD1.FAD1.1.233D5
FAD2.FAD2.1.3B9D FAD3.FAD3.1.4018 FAD4.FAD4.1.4039 FAD5.FAD5.1.25249 FAD6.FAD6.1.25CD0
FAD7.FAD7.1.27ED3 FAD8.FAD8.1.9F43 FAD9.FAD9.1.9F8E 2F800.2F800.1.4E3D 2F801.2F801.1.4E38
2F802.2F802.1.4E41 2F803.2F803.1.20122 2F804.2F804.1.4F60 2F805.2F805.1.4FAE 2F806.2F806.1.4FBB
2F807.2F807.1.5002 2F808.2F808.1.507A 2F809.2F809.1.5099 2F80A.2F80A.1.50E7 2F80B.2F80B.1.50CF
2F80C.2F80C.1.349E 2F80D.2F80D.1.2063A 2F80E.2F80E.1.514D 2F80F.2F80F.1.5154 2F810.2F810.1.5164
2F811.2F811.1.5177 2F812.2F812.1.2051C 2F813.2F813.1.34B9 2F814.2F814.1.5167 2F815.2F815.1.518D
2F816.2F816.1.2054B 2F817.2F817.1.5197 2F818.2F818.1.51A4 2F819.2F819.1.4ECC 2F81A.2F81A.1.51AC
2F81B.2F81B.1.51B5 2F81C.2F81C.1.291DF 2F81D.2F81D.1.51F5 2F81E.2F81E.1.5203 2F81F.2F81F.1.34DF
2F820.2F820.1.523B 2F821.2F821.1.5246 2F822.2F822.1.5272 2F823.2F823.1.5277 2F824.2F824.1.3515
2F825.2F825.1.52C7 2F826.2F826.1.52C9 2F827.2F827.1.52E4 2F828.2F828.1.52FA 2F829.2F82A.1.5305
2F82B.2F82B.1.5317 2F82C.2F82C.1.5349 2F82D.2F82D.1.5351 2F82E.2F82E.1.535A 2F82F.2F82F.1.5373
2F830.2F830.1.537D 2F831.2F831.1.537F 2F832.2F832.1.537F 2F833.2F833.1.537F 2F834.2F834.1.20A2C
2F835.2F835.1.7070 2F836.2F836.1.53CA 2F837.2F837.1.53DF 2F838.2F838.1.20B63 2F839.2F839.1.53EB
2F83A.2F83A.1.53F1 2F83B.2F83B.1.5406 2F83C.2F83C.1.549E 2F83D.2F83D.1.5438 2F83E.2F83E.1.5448
2F83F.2F83F.1.5468 2F840.2F840.1.54A2 2F841.2F841.1.54F6 2F842.2F842.1.5510 2F843.2F843.1.5553
2F844.2F844.1.5563 2F845.2F845.1.5584 2F846.2F846.1.5584 2F847.2F847.1.5599 2F848.2F848.1.55AB
2F849.2F849.1.55B3 2F84A.2F84A.1.55C2 2F84B.2F84B.1.5716 2F84C.2F84C.1.5606 2F84D.2F84D.1.5717
2F84E.2F84E.1.5651 2F84F.2F84F.1.5674 2F850.2F850.1.5207 2F851.2F851.1.58EE 2F852.2F852.1.57CE
2F853.2F853.1.57F4 2F854.2F854.1.580D 2F855.2F855.1.578B 2F856.2F856.1.5832 2F857.2F857.1.5831
2F858.2F858.1.58AC 2F859.2F859.1.214E4 2F85A.2F85A.1.58F2 2F85B.2F85B.1.58F7 2F85C.2F85C.1.5906
2F85D.2F85D.1.591A 2F85E.2F85E.1.5922 2F85F.2F85F.1.5962 2F860.2F860.1.216A8 2F861.2F861.1.216EA
2F862.2F862.1.59EC 2F863.2F863.1.5A1B 2F864.2F864.1.5A27 2F865.2F865.1.59D8 2F866.2F866.1.5A66
2F867.2F867.1.36EE 2F868.2F868.1.36FC 2F869.2F869.1.5B08 2F86A.2F86A.1.5B3E 2F86B.2F86B.1.5B3E
2F86C.2F86C.1.219C8 2F86D.2F86D.1.5BC3 2F86E.2F86E.1.5BD8 2F86F.2F86F.1.5BE7 2F870.2F870.1.5BF3
2F871.2F871.1.21B18 2F872.2F872.1.5BFF 2F873.2F873.1.5C06 2F874.2F874.1.5F53 2F875.2F875.1.5C22
2F876.2F876.1.3781 2F877.2F877.1.5C60 2F878.2F878.1.5C6E 2F879.2F879.1.5CC0 2F87A.2F87A.1.5C8D
2F87B.2F87B.1.21DE4 2F87C.2F87C.1.5D43 2F87D.2F87D.1.21DE6 2F87E.2F87E.1.5D6E 2F87F.2F87F.1.5D6B
2F880.2F880.1.5D7C 2F881.2F882.1.5DE1 2F883.2F883.1.382F 2F884.2F884.1.5DFD 2F885.2F885.1.5E28
2F886.2F886.1.5E3D 2F887.2F887.1.5E69 2F888.2F888.1.3862 2F889.2F889.1.22183 2F88A.2F88A.1.387C
2F88B.2F88B.1.5EB0 2F88C.2F88C.1.5EB3 2F88D.2F88D.1.5EB6 2F88E.2F88E.1.5ECA 2F88F.2F88F.1.2A392
2F890.2F890.1.5EFE 2F891.2F891.1.22331 2F892.2F892.1.22331 2F893.2F893.1.8201 2F894.2F894.1.5F22
2F895.2F895.1.5F22 2F896.2F896.1.38C7 2F897.2F897.1.232B8 2F898.2F898.1.261DA 2F899.2F899.1.5F62
2F89A.2F89A.1.5F6B 2F89B.2F89B.1.38E3 2F89C.2F89C.1.5F9A 2F89D.2F89D.1.5FCD 2F89E.2F89E.1.5FD7
2F89F.2F89F.1.5FF9 2F8A0.2F8A0.1.6081 2F8A1.2F8A1.1.393A 2F8A2.2F8A2.1.391C 2F8A3.2F8A3.1.6094
2F8A4.2F8A4.1.226D4 2F8A5.2F8A5.1.60C7 2F8A6.2F8A6.1.6148 2F8A7.2F8A7.1.614C 2F8A8.2F8A8.1.614E
2F8A9.2F8A9.1.614C 2F8AA.2F8AA.1.617A 2F8AB.2F8AB.1.618E 2F8AC.2F8AC.1.61B2 2F8AD.2F8AD.1.61A4
2F8AE.2F8AE.1.61AF 2F8AF.2F8AF.1.61DE 2F8B0.2F8B0.1.61F2 2F8B1.2F8B1.1.61F6 2F8B2.2F8B2.1.6210
2F8B3.2F8B3.1.621B 2F8B4.2F8B4.1.625D 2F8B5.2F8B5.1.62B1 2F8B6.2F8B6.1.62D4 2F8B7.2F8B7.1.6350
2F8B8.2F8B8.1.22B0C 2F8B9.2F8B9.1.633D 2F8BA.2F8BA.1.62FC 2F8BB.2F8BB.1.6368 2F8BC.2F8BC.1.6383
2F8BD.2F8BD.1.63E4 2F8BE.2F8BE.1.22BF1 2F8BF.2F8BF.1.6422 2F8C0.2F8C0.1.63C5 2F8C1.2F8C1.1.63A9
2F8C2.2F8C2.1.3A2E 2F8C3.2F8C3.1.6469 2F8C4.2F8C4.1.647E 2F8C5.2F8C5.1.649D 2F8C6.2F8C6.1.6477
2F8C7.2F8C7.1.3A6C 2F8C8.2F8C8.1.654F 2F8C9.2F8C9.1.656C 2F8CA.2F8CA.1.2300A 2F8CB.2F8CB.1.65E3
2F8CC.2F8CC.1.66F8 2F8CD.2F8CD.1.6649 2F8CE.2F8CE.1.3B19 2F8CF.2F8CF.1.6691 2F8D0.2F8D0.1.3B08
2F8D1.2F8D1.1.3AE4 2F8D2.2F8D2.1.5192 2F8D3.2F8D3.1.5195 2F8D4.2F8D4.1.6700 2F8D5.2F8D5.1.669C
2F8D6.2F8D6.1.80AD 2F8D7.2F8D7.1.43D9 2F8D8.2F8D8.1.6717 2F8D9.2F8D9.1.671B 2F8DA.2F8DA.1.6721
2F8DB.2F8DB.1.675E 2F8DC.2F8DC.1.6753 2F8DD.2F8DD.1.233C3 2F8DE.2F8DE.1.3B49 2F8DF.2F8DF.1.67FA
2F8E0.2F8E0.1.6785 2F8E1.2F8E1.1.6852 2F8E2.2F8E2.1.6885 2F8E3.2F8E3.1.2346D 2F8E4.2F8E4.1.688E
2F8E5.2F8E5.1.681F 2F8E6.2F8E6.1.6914 2F8E7.2F8E7.1.3B9D 2F8E8.2F8E8.1.6942 2F8E9.2F8E9.1.69A3
2F8EA.2F8EA.1.69EA 2F8EB.2F8EB.1.6AA8 2F8EC.2F8EC.1.236A3 2F8ED.2F8ED.1.6ADB 2F8EE.2F8EE.1.3C18
2F8EF.2F8EF.1.6B21 2F8F0.2F8F0.1.238A7 2F8F1.2F8F1.1.6B54 2F8F2.2F8F2.1.3C4E 2F8F3.2F8F3.1.6B72
2F8F4.2F8F4.1.6B9F 2F8F5.2F8F6.1.6BBA 2F8F7.2F8F7.1.23A8D 2F8F8.2F8F8.1.21D0B 2F8F9.2F8F9.1.23AFA
2F8FA.2F8FA.1.6C4E 2F8FB.2F8FB.1.23CBC 2F8FC.2F8FC.1.6CBF 2F8FD.2F8FD.1.6CCD 2F8FE.2F8FE.1.6C67
2F8FF.2F8FF.1.6D16 2F900.2F900.1.6D3E 2F901.2F901.1.6D77 2F902.2F902.1.6D41 2F903.2F903.1.6D69
2F904.2F904.1.6D78 2F905.2F905.1.6D85 2F906.2F906.1.23D1E 2F907.2F907.1.6D34 2F908.2F908.1.6E2F
2F909.2F909.1.6E6E 2F90A.2F90A.1.3D33 2F90B.2F90B.1.6ECB 2F90C.2F90C.1.6EC7 2F90D.2F90D.1.23ED1
2F90E.2F90E.1.6DF9 2F90F.2F90F.1.6F6E 2F910.2F910.1.23F5E 2F911.2F911.1.23F8E 2F912.2F912.1.6FC6
2F913.2F913.1.7039 2F914.2F914.1.701E 2F915.2F915.1.701B 2F916.2F916.1.3D96 2F917.2F917.1.704A
2F918.2F918.1.707D 2F919.2F919.1.7077 2F91A.2F91A.1.70AD 2F91B.2F91B.1.20525 2F91C.2F91C.1.7145
2F91D.2F91D.1.24263 2F91E.2F91E.1.719C 2F91F.2F91F.1.243AB 2F920.2F920.1.7228 2F921.2F921.1.7235
2F922.2F922.1.7250 2F923.2F923.1.24608 2F924.2F924.1.7280 2F925.2F925.1.7295 2F926.2F926.1.24735
2F927.2F927.1.24814 2F928.2F928.1.737A 2F929.2F929.1.738B 2F92A.2F92A.1.3EAC 2F92B.2F92B.1.73A5
2F92C.2F92C.1.3EB8 2F92D.2F92D.1.3EB8 2F92E.2F92E.1.7447 2F92F.2F92F.1.745C 2F930.2F930.1.7471
2F931.2F931.1.7485 2F932.2F932.1.74CA 2F933.2F933.1.3F1B 2F934.2F934.1.7524 2F935.2F935.1.24C36
2F936.2F936.1.753E 2F937.2F937.1.24C92 2F938.2F938.1.7570 2F939.2F939.1.2219F 2F93A.2F93A.1.7610
2F93B.2F93B.1.24FA1 2F93C.2F93C.1.24FB8 2F93D.2F93D.1.25044 2F93E.2F93E.1.3FFC 2F93F.2F93F.1.4008
2F940.2F940.1.76F4 2F941.2F941.1.250F3 2F942.2F942.1.250F2 2F943.2F943.1.25119 2F944.2F944.1.25133
2F945.2F946.1.771E 2F947.2F947.1.771F 2F948.2F948.1.774A 2F949.2F949.1.4039 2F94A.2F94A.1.778B
2F94B.2F94B.1.4046 2F94C.2F94C.1.4096 2F94D.2F94D.1.2541D 2F94E.2F94E.1.784E 2F94F.2F94F.1.788C
2F950.2F950.1.78CC 2F951.2F951.1.40E3 2F952.2F952.1.25626 2F953.2F953.1.7956 2F954.2F954.1.2569A
2F955.2F955.1.256C5 2F956.2F956.1.798F 2F957.2F957.1.79EB 2F958.2F958.1.412F 2F959.2F959.1.7A40
2F95A.2F95A.1.7A4A 2F95B.2F95B.1.7A4F 2F95C.2F95C.1.2597C 2F95D.2F95D.1.25AA7 2F95E.2F95E.1.25AA7
2F95F.2F95F.1.7AEE 2F960.2F960.1.4202 2F961.2F961.1.25BAB 2F962.2F962.1.7BC6 2F963.2F963.1.7BC9
2F964.2F964.1.4227 2F965.2F965.1.25C80 2F966.2F966.1.7CD2 2F967.2F967.1.42A0 2F968.2F968.1.7CE8
2F969.2F969.1.7CE3 2F96A.2F96A.1.7D00 2F96B.2F96B.1.25F86 2F96C.2F96C.1.7D63 2F96D.2F96D.1.4301
2F96E.2F96E.1.7DC7 2F96F.2F96F.1.7E02 2F970.2F970.1.7E45 2F971.2F971.1.4334 2F972.2F972.1.26228
2F973.2F973.1.26247 2F974.2F974.1.4359 2F975.2F975.1.262D9 2F976.2F976.1.7F7A 2F977.2F977.1.2633E
2F978.2F978.1.7F95 2F979.2F979.1.7FFA 2F97A.2F97A.1.8005 2F97B.2F97B.1.264DA 2F97C.2F97C.1.26523
2F97D.2F97D.1.8060 2F97E.2F97E.1.265A8 2F97F.2F97F.1.8070 2F980.2F980.1.2335F 2F981.2F981.1.43D5
2F982.2F982.1.80B2 2F983.2F983.1.8103 2F984.2F984.1.440B 2F985.2F985.1.813E 2F986.2F986.1.5AB5
2F987.2F987.1.267A7 2F988.2F988.1.267B5 2F989.2F989.1.23393 2F98A.2F98A.1.2339C 2F98B.2F98B.1.8201
2F98C.2F98C.1.8204 2F98D.2F98D.1.8F9E 2F98E.2F98E.1.446B 2F98F.2F98F.1.8291 2F990.2F990.1.828B
2F991.2F991.1.829D 2F992.2F992.1.52B3 2F993.2F993.1.82B1 2F994.2F994.1.82B3 2F995.2F995.1.82BD
2F996.2F996.1.82E6 2F997.2F997.1.26B3C 2F998.2F998.1.82E5 2F999.2F999.1.831D 2F99A.2F99A.1.8363
2F99B.2F99B.1.83AD 2F99C.2F99C.1.8323 2F99D.2F99D.1.83BD 2F99E.2F99E.1.83E7 2F99F.2F99F.1.8457
2F9A0.2F9A0.1.8353 2F9A1.2F9A1.1.83CA 2F9A2.2F9A2.1.83CC 2F9A3.2F9A3.1.83DC 2F9A4.2F9A4.1.26C36
2F9A5.2F9A5.1.26D6B 2F9A6.2F9A6.1.26CD5 2F9A7.2F9A7.1.452B 2F9A8.2F9A8.1.84F1 2F9A9.2F9A9.1.84F3
2F9AA.2F9AA.1.8516 2F9AB.2F9AB.1.273CA 2F9AC.2F9AC.1.8564 2F9AD.2F9AD.1.26F2C 2F9AE.2F9AE.1.455D
2F9AF.2F9AF.1.4561 2F9B0.2F9B0.1.26FB1 2F9B1.2F9B1.1.270D2 2F9B2.2F9B2.1.456B 2F9B3.2F9B3.1.8650
2F9B4.2F9B4.1.865C 2F9B5.2F9B5.1.8667 2F9B6.2F9B6.1.8669 2F9B7.2F9B7.1.86A9 2F9B8.2F9B8.1.8688
2F9B9.2F9B9.1.870E 2F9BA.2F9BA.1.86E2 2F9BB.2F9BB.1.8779 2F9BC.2F9BC.1.8728 2F9BD.2F9BD.1.876B
2F9BE.2F9BE.1.8786 2F9BF.2F9BF.1.45D7 2F9C0.2F9C0.1.87E1 2F9C1.2F9C1.1.8801 2F9C2.2F9C2.1.45F9
2F9C3.2F9C3.1.8860 2F9C4.2F9C4.1.8863 2F9C5.2F9C5.1.27667 2F9C6.2F9C6.1.88D7 2F9C7.2F9C7.1.88DE
2F9C8.2F9C8.1.4635 2F9C9.2F9C9.1.88FA 2F9CA.2F9CA.1.34BB 2F9CB.2F9CB.1.278AE 2F9CC.2F9CC.1.27966
2F9CD.2F9CD.1.46BE 2F9CE.2F9CE.1.46C7 2F9CF.2F9CF.1.8AA0 2F9D0.2F9D0.1.8AED 2F9D1.2F9D1.1.8B8A
2F9D2.2F9D2.1.8C55 2F9D3.2F9D3.1.27CA8 2F9D4.2F9D4.1.8CAB 2F9D5.2F9D5.1.8CC1 2F9D6.2F9D6.1.8D1B
2F9D7.2F9D7.1.8D77 2F9D8.2F9D8.1.27F2F 2F9D9.2F9D9.1.20804 2F9DA.2F9DA.1.8DCB 2F9DB.2F9DB.1.8DBC
2F9DC.2F9DC.1.8DF0 2F9DD.2F9DD.1.208DE 2F9DE.2F9DE.1.8ED4 2F9DF.2F9DF.1.8F38 2F9E0.2F9E0.1.285D2
2F9E1.2F9E1.1.285ED 2F9E2.2F9E2.1.9094 2F9E3.2F9E3.1.90F1 2F9E4.2F9E4.1.9111 2F9E5.2F9E5.1.2872E
2F9E6.2F9E6.1.911B 2F9E7.2F9E7.1.9238 2F9E8.2F9E9.1.92D7 2F9EA.2F9EA.1.927C 2F9EB.2F9EB.1.93F9
2F9EC.2F9EC.1.9415 2F9ED.2F9ED.1.28BFA 2F9EE.2F9EE.1.958B 2F9EF.2F9EF.1.4995 2F9F0.2F9F0.1.95B7
2F9F1.2F9F1.1.28D77 2F9F2.2F9F2.1.49E6 2F9F3.2F9F3.1.96C3 2F9F4.2F9F4.1.5DB2 2F9F5.2F9F5.1.9723
2F9F6.2F9F6.1.29145 2F9F7.2F9F7.1.2921A 2F9F8.2F9F8.1.4A6E 2F9F9.2F9F9.1.4A76 2F9FA.2F9FA.1.97E0
2F9FB.2F9FB.1.2940A 2F9FC.2F9FC.1.4AB2 2F9FD.2F9FD.1.29496 2F9FE.2F9FE.1.980B 2F9FF.2F9FF.1.980B
2FA00.2FA00.1.9829 2FA01.2FA01.1.295B6 2FA02.2FA02.1.98E2 2FA03.2FA03.1.4B33 2FA04.2FA04.1.9929
2FA05.2FA05.1.99A7 2FA06.2FA06.1.99C2 2FA07.2FA07.1.99FE 2FA08.2FA08.1.4BCE 2FA09.2FA09.1.29B30
2FA0A.2FA0A.1.9B12 2FA0B.2FA0B.1.9C40 2FA0C.2FA0C.1.9CFD 2FA0D.2FA0D.1.4CCE 2FA0E.2FA0E.1.4CED
2FA0F.2FA0F.1.9D67 2FA10.2FA10.1.2A0CE 2FA11.2FA11.1.4CF8 2FA12.2FA12.1.2A105 2FA13.2FA13.1.2A20E
2FA14.2FA14.1.2A291 2FA15.2FA15.1.9EBB 2FA16.2FA16.1.4D56 2FA17.2FA17.1.9EF9 2FA18.2FA18.1.9EFE
2FA19.2FA19.1.9F05 2FA1A.2FA1A.1.9F0F 2FA1B.2FA1B.1.9F16 2FA1C.2FA1C.1.9F3B 2FA1D.2FA1D.1.2A600"

/-- The characters that several others always take the place of, and these. -/
def replacedBySeveral : Array (Array Nat) := tableOf "
344.308.301 958.915.93C 959.916.93C 95A.917.93C 95B.91C.93C 95C.921.93C 95D.922.93C 95E.92B.93C
95F.92F.93C 9DC.9A1.9BC 9DD.9A2.9BC 9DF.9AF.9BC A33.A32.A3C A36.A38.A3C A59.A16.A3C A5A.A17.A3C
A5B.A1C.A3C A5E.A2B.A3C B5C.B21.B3C B5D.B22.B3C F43.F42.FB7 F4D.F4C.FB7 F52.F51.FB7 F57.F56.FB7
F5C.F5B.FB7 F69.F40.FB5 F73.F71.F72 F75.F71.F74 F76.FB2.F80 F78.FB3.F80 F81.F71.F80 F93.F92.FB7
F9D.F9C.FB7 FA2.FA1.FB7 FA7.FA6.FB7 FAC.FAB.FB7 FB9.F90.FB5 1F71.3B1.301 1F73.3B5.301 1F75.3B7.301
1F77.3B9.301 1F79.3BF.301 1F7B.3C5.301 1F7D.3C9.301 1FBB.391.301 1FC9.395.301 1FCB.397.301
1FD3.3B9.308.301 1FDB.399.301 1FE3.3C5.308.301 1FEB.3A5.301 1FEE.A8.301 1FF9.39F.301 1FFB.3A9.301
212B.41.30A 2ADC.2ADD.338 FB1D.5D9.5B4 FB1F.5F2.5B7 FB2A.5E9.5C1 FB2B.5E9.5C2 FB2C.5E9.5BC.5C1
FB2D.5E9.5BC.5C2 FB2E.5D0.5B7 FB2F.5D0.5B8 FB30.5D0.5BC FB31.5D1.5BC FB32.5D2.5BC FB33.5D3.5BC
FB34.5D4.5BC FB35.5D5.5BC FB36.5D6.5BC FB38.5D8.5BC FB39.5D9.5BC FB3A.5DA.5BC FB3B.5DB.5BC
FB3C.5DC.5BC FB3E.5DE.5BC FB40.5E0.5BC FB41.5E1.5BC FB43.5E3.5BC FB44.5E4.5BC FB46.5E6.5BC
FB47.5E7.5BC FB48.5E8.5BC FB49.5E9.5BC FB4A.5EA.5BC FB4B.5D5.5B9 FB4C.5D1.5BF FB4D.5DB.5BF
FB4E.5E4.5BF 1D15E.1D157.1D165 1D15F.1D158.1D165 1D160.1D158.1D165.1D16E 1D161.1D158.1D165.1D16F
1D162.1D158.1D165.1D170 1D163.1D158.1D165.1D171 1D164.1D158.1D165.1D172 1D1BB.1D1B9.1D165
1D1BC.1D1BA.1D165 1D1BD.1D1B9.1D165.1D16E 1D1BE.1D1BA.1D165.1D16E 1D1BF.1D1B9.1D165.1D16F
1D1C0.1D1BA.1D165.1D16F"

/-- Ranges of marks and the classes that order them. -/
def combiningClasses : Array (Array Nat) := tableOf "
300.314.E6 315.315.E8 316.319.DC 31A.31A.E8 31B.31B.D8 31C.320.DC 321.322.CA 323.326.DC 327.328.CA
329.333.DC 334.338.1 339.33C.DC 33D.33F.E6 342.342.E6 345.345.F0 346.346.E6 347.349.DC 34A.34C.E6
34D.34E.DC 350.352.E6 353.356.DC 357.357.E6 358.358.E8 359.35A.DC 35B.35B.E6 35C.35C.E9 35D.35E.EA
35F.35F.E9 360.361.EA 362.362.E9 363.36F.E6 483.487.E6 591.591.DC 592.595.E6 596.596.DC 597.599.E6
59A.59A.DE 59B.59B.DC 59C.5A1.E6 5A2.5A7.DC 5A8.5A9.E6 5AA.5AA.DC 5AB.5AC.E6 5AD.5AD.DE 5AE.5AE.E4
5AF.5AF.E6 5B0.5B0.A 5B1.5B1.B 5B2.5B2.C 5B3.5B3.D 5B4.5B4.E 5B5.5B5.F 5B6.5B6.10 5B7.5B7.11
5B8.5B8.12 5B9.5BA.13 5BB.5BB.14 5BC.5BC.15 5BD.5BD.16 5BF.5BF.17 5C1.5C1.18 5C2.5C2.19 5C4.5C4.E6
5C5.5C5.DC 5C7.5C7.12 610.617.E6 618.618.1E 619.619.1F 61A.61A.20 64B.64B.1B 64C.64C.1C 64D.64D.1D
64E.64E.1E 64F.64F.1F 650.650.20 651.651.21 652.652.22 653.654.E6 655.656.DC 657.65B.E6 65C.65C.DC
65D.65E.E6 65F.65F.DC 670.670.23 6D6.6DC.E6 6DF.6E2.E6 6E3.6E3.DC 6E4.6E4.E6 6E7.6E8.E6 6EA.6EA.DC
6EB.6EC.E6 6ED.6ED.DC 711.711.24 730.730.E6 731.731.DC 732.733.E6 734.734.DC 735.736.E6 737.739.DC
73A.73A.E6 73B.73C.DC 73D.73D.E6 73E.73E.DC 73F.741.E6 742.742.DC 743.743.E6 744.744.DC 745.745.E6
746.746.DC 747.747.E6 748.748.DC 749.74A.E6 7EB.7F1.E6 7F2.7F2.DC 7F3.7F3.E6 7FD.7FD.DC 816.819.E6
81B.823.E6 825.827.E6 829.82D.E6 859.85B.DC 897.898.E6 899.89B.DC 89C.89F.E6 8CA.8CE.E6 8CF.8D3.DC
8D4.8E1.E6 8E3.8E3.DC 8E4.8E5.E6 8E6.8E6.DC 8E7.8E8.E6 8E9.8E9.DC 8EA.8EC.E6 8ED.8EF.DC 8F0.8F0.1B
8F1.8F1.1C 8F2.8F2.1D 8F3.8F5.E6 8F6.8F6.DC 8F7.8F8.E6 8F9.8FA.DC 8FB.8FF.E6 93C.93C.7 94D.94D.9
951.951.E6 952.952.DC 953.954.E6 9BC.9BC.7 9CD.9CD.9 9FE.9FE.E6 A3C.A3C.7 A4D.A4D.9 ABC.ABC.7
ACD.ACD.9 B3C.B3C.7 B4D.B4D.9 BCD.BCD.9 C3C.C3C.7 C4D.C4D.9 C55.C55.54 C56.C56.5B CBC.CBC.7
CCD.CCD.9 D3B.D3C.9 D4D.D4D.9 DCA.DCA.9 E38.E39.67 E3A.E3A.9 E48.E4B.6B EB8.EB9.76 EBA.EBA.9
EC8.ECB.7A F18.F19.DC F35.F35.DC F37.F37.DC F39.F39.D8 F71.F71.81 F72.F72.82 F74.F74.84 F7A.F7D.82
F80.F80.82 F82.F83.E6 F84.F84.9 F86.F87.E6 FC6.FC6.DC 1037.1037.7 1039.103A.9 108D.108D.DC
135D.135F.E6 1714.1715.9 1734.1734.9 17D2.17D2.9 17DD.17DD.E6 18A9.18A9.E4 1939.1939.DE
193A.193A.E6 193B.193B.DC 1A17.1A17.E6 1A18.1A18.DC 1A60.1A60.9 1A75.1A7C.E6 1A7F.1A7F.DC
1AB0.1AB4.E6 1AB5.1ABA.DC 1ABB.1ABC.E6 1ABD.1ABD.DC 1ABF.1AC0.DC 1AC1.1AC2.E6 1AC3.1AC4.DC
1AC5.1AC9.E6 1ACA.1ACA.DC 1ACB.1ADC.E6 1ADD.1ADD.DC 1AE0.1AE5.E6 1AE6.1AE6.DC 1AE7.1AEA.E6
1AEB.1AEB.EA 1B34.1B34.7 1B44.1B44.9 1B6B.1B6B.E6 1B6C.1B6C.DC 1B6D.1B73.E6 1BAA.1BAB.9
1BE6.1BE6.7 1BF2.1BF3.9 1C37.1C37.7 1CD0.1CD2.E6 1CD4.1CD4.1 1CD5.1CD9.DC 1CDA.1CDB.E6
1CDC.1CDF.DC 1CE0.1CE0.E6 1CE2.1CE8.1 1CED.1CED.DC 1CF4.1CF4.E6 1CF8.1CF9.E6 1DC0.1DC1.E6
1DC2.1DC2.DC 1DC3.1DC9.E6 1DCA.1DCA.DC 1DCB.1DCC.E6 1DCD.1DCD.EA 1DCE.1DCE.D6 1DCF.1DCF.DC
1DD0.1DD0.CA 1DD1.1DF5.E6 1DF6.1DF6.E8 1DF7.1DF8.E4 1DF9.1DF9.DC 1DFA.1DFA.DA 1DFB.1DFB.E6
1DFC.1DFC.E9 1DFD.1DFD.DC 1DFE.1DFE.E6 1DFF.1DFF.DC 20D0.20D1.E6 20D2.20D3.1 20D4.20D7.E6
20D8.20DA.1 20DB.20DC.E6 20E1.20E1.E6 20E5.20E6.1 20E7.20E7.E6 20E8.20E8.DC 20E9.20E9.E6
20EA.20EB.1 20EC.20EF.DC 20F0.20F0.E6 2CEF.2CF1.E6 2D7F.2D7F.9 2DE0.2DFF.E6 302A.302A.DA
302B.302B.E4 302C.302C.E8 302D.302D.DE 302E.302F.E0 3099.309A.8 A66F.A66F.E6 A674.A67D.E6
A69E.A69F.E6 A6F0.A6F1.E6 A806.A806.9 A82C.A82C.9 A8C4.A8C4.9 A8E0.A8F1.E6 A92B.A92D.DC
A953.A953.9 A9B3.A9B3.7 A9C0.A9C0.9 AAB0.AAB0.E6 AAB2.AAB3.E6 AAB4.AAB4.DC AAB7.AAB8.E6
AABE.AABF.E6 AAC1.AAC1.E6 AAF6.AAF6.9 ABED.ABED.9 FB1E.FB1E.1A FE20.FE26.E6 FE27.FE2D.DC
FE2E.FE2F.E6 101FD.101FD.DC 102E0.102E0.DC 10376.1037A.E6 10A0D.10A0D.DC 10A0F.10A0F.E6
10A38.10A38.E6 10A39.10A39.1 10A3A.10A3A.DC 10A3F.10A3F.9 10AE5.10AE5.E6 10AE6.10AE6.DC
10D24.10D27.E6 10D69.10D6D.E6 10EAB.10EAC.E6 10EFA.10EFB.DC 10EFD.10EFF.DC 10F46.10F47.DC
10F48.10F4A.E6 10F4B.10F4B.DC 10F4C.10F4C.E6 10F4D.10F50.DC 10F82.10F82.E6 10F83.10F83.DC
10F84.10F84.E6 10F85.10F85.DC 11046.11046.9 11070.11070.9 1107F.1107F.9 110B9.110B9.9
110BA.110BA.7 11100.11102.E6 11133.11134.9 11173.11173.7 111C0.111C0.9 111CA.111CA.7 11235.11235.9
11236.11236.7 112E9.112E9.7 112EA.112EA.9 1133B.1133C.7 1134D.1134D.9 11366.1136C.E6
11370.11374.E6 113CE.113D0.9 11442.11442.9 11446.11446.7 1145E.1145E.E6 114C2.114C2.9
114C3.114C3.7 115BF.115BF.9 115C0.115C0.7 1163F.1163F.9 116B6.116B6.9 116B7.116B7.7 1172B.1172B.9
11839.11839.9 1183A.1183A.7 1193D.1193E.9 11943.11943.7 119E0.119E0.9 11A34.11A34.9 11A47.11A47.9
11A99.11A99.9 11C3F.11C3F.9 11D42.11D42.7 11D44.11D45.9 11D97.11D97.9 11F41.11F42.9 1612F.1612F.9
16AF0.16AF4.1 16B30.16B36.E6 16FF0.16FF1.6 1BC9E.1BC9E.1 1D165.1D166.D8 1D167.1D169.1
1D16D.1D16D.E2 1D16E.1D172.D8 1D17B.1D182.DC 1D185.1D189.E6 1D18A.1D18B.DC 1D1AA.1D1AD.E6
1D242.1D244.E6 1E000.1E006.E6 1E008.1E018.E6 1E01B.1E021.E6 1E023.1E024.E6 1E026.1E02A.E6
1E08F.1E08F.E6 1E130.1E136.E6 1E2AE.1E2AE.E6 1E2EC.1E2EF.E6 1E4EC.1E4ED.E8 1E4EE.1E4EE.DC
1E4EF.1E4EF.E6 1E5EE.1E5EE.E6 1E5EF.1E5EF.DC 1E6E3.1E6E3.E6 1E6E6.1E6E6.E6 1E6EE.1E6EF.E6
1E6F5.1E6F5.E6 1E8D0.1E8D6.DC 1E944.1E949.E6 1E94A.1E94A.7"

/-- Ranges of the characters that combine with the one before. A character that no host holds may
fall into any range. -/
def markRanges : Array (Array Nat) := tableOf "
300.36F 483.489 591.5BD 5BF 5C1.5C2 5C4.5C5 5C7 610.61A 64B.65F 670 6D6.6DC 6DF.6E4 6E7.6E8
6EA.6ED 711 730.74A 7A6.7B0 7EB.7F3 7FD 816.819 81B.823 825.827 829.82D 859.85B 897.89F 8CA.903
93A.93C 93E.94F 951.957 962.963 981.983 9BC 9BE.9CD 9D7 9E2.9E3 9FE.A03 A3C.A51 A70.A71 A75
A81.A83 ABC ABE.ACD AE2.AE3 AFA.B03 B3C B3E.B57 B62.B63 B82 BBE.BCD BD7 C00.C04 C3C C3E.C56
C62.C63 C81.C83 CBC CBE.CD6 CE2.CE3 CF3.D03 D3B.D3C D3E.D4D D57 D62.D63 D81.D83 DCA.DDF DF2.DF3
E31 E34.E3A E47.E4E EB1 EB4.EBC EC8.ECE F18.F19 F35 F37 F39 F3E.F3F F71.F84 F86.F87 F8D.FBC FC6
102B.103E 1056.1059 105E.1060 1062.1064 1067.106D 1071.1074 1082.108D 108F 109A.109D 135D.135F
1712.1715 1732.1734 1752.1753 1772.1773 17B6.17D3 17DD 1885.1886 18A9 1920.193B 1A17.1A1B
1A55.1A7F 1AB0.1B04 1B34.1B44 1B6B.1B73 1B80.1B82 1BA1.1BAD 1BE6.1BF3 1C24.1C37 1CD0.1CD2
1CD4.1CE8 1CED 1CF4 1CF7.1CF9 1DC0.1DFF 20D0.20F0 2CEF.2CF1 2D7F 2DE0.2DFF 302A.302F 3099.309A
A66F.A672 A674.A67D A69E.A69F A6F0.A6F1 A802 A806 A80B A823.A827 A82C A880.A881 A8B4.A8C5
A8E0.A8F1 A8FF A926.A92D A947.A953 A980.A983 A9B3.A9C0 A9E5 AA29.AA36 AA43 AA4C.AA4D AA7B.AA7D
AAB0 AAB2.AAB4 AAB7.AAB8 AABE.AABF AAC1 AAEB.AAEF AAF5.AAF6 ABE3.ABEA ABEC.ABED FB1E FE20.FE2F
101FD 102E0 10376.1037A 10A01.10A0F 10A38.10A3F 10AE5.10AE6 10D24.10D27 10D69.10D6D 10EAB.10EAC
10EFA.10EFF 10F46.10F50 10F82.10F85 11000.11002 11038.11046 11070 11073.11074 1107F.11082
110B0.110BA 110C2 11100.11102 11127.11134 11145.11146 11173 11180.11182 111B3.111C0 111C9.111CC
111CE.111CF 1122C.11237 1123E 11241 112DF.112EA 11300.11303 1133B.1133C 1133E.1134D 11357
11362.11374 113B8.113D0 113D2 113E1.113E2 11435.11446 1145E 114B0.114C3 115AF.115C0 115DC.115DD
11630.11640 116AB.116B7 1171D.1172B 1182C.1183A 11930.1193E 11940 11942.11943 119D1.119E0 119E4
11A01.11A0A 11A33.11A39 11A3B.11A3E 11A47 11A51.11A5B 11A8A.11A99 11B60.11B67 11C2F.11C3F
11C92.11CB6 11D31.11D45 11D47 11D8A.11D97 11EF3.11EF6 11F00.11F01 11F03 11F34.11F42 11F5A 13440
13447.13455 1611E.1612F 16AF0.16AF4 16B30.16B36 16F4F 16F51.16F92 16FE4.16FF1 1BC9D.1BC9E
1CF00.1CF46 1D165.1D169 1D16D.1D182 1D185.1D18B 1D1AA.1D1AD 1D242.1D244 1DA00.1DA36 1DA3B.1DA6C
1DA75 1DA84 1DA9B.1DAAF 1E000.1E08F 1E130.1E136 1E2AE 1E2EC.1E2EF 1E4EC.1E4EF 1E5EE.1E5EF 1E6E3
1E6E6 1E6EE.1E6EF 1E6F5 1E8D0.1E8D6 1E944.1E94A"

/-- The character combines with the one before. -/
def isMark (c : Char) : Bool :=
  inRanges markRanges c

/-- The class that orders a mark, 0 for all other characters. -/
def combiningClass (c : Char) : Nat :=
  match rowAt? combiningClasses c.toNat with
  | some row => if c.toNat ≤ rowStop row then row.getD 2 0 else 0
  | none => 0

/-- The first Korean syllable. -/
def firstSyllable : Nat := 0xAC00

/-- The number of Korean syllables. -/
def syllableCount : Nat := 11172

/-- The code points that a code point is composed of. -/
def decomposedCodes (code : Nat) : List Nat :=
  let index := code - firstSyllable
  if firstSyllable ≤ code && index < syllableCount then
    let start := [0x1100 + index / 588, 0x1161 + index % 588 / 28]
    if index % 28 = 0 then start else start ++ [0x11A7 + index % 28]
  else
    match rowAt? composites code with
    | some row => if rowStart row = code then row.toList.drop 1 else other
    | none => other
where
  /-- What always takes the place of the code point. -/
  other : List Nat :=
    mappedCodes replacedByOne replacedBySeveral code

/-- The characters that a text is composed of. -/
def decomposed (s : List Char) : List Char :=
  s.flatMap fun c => (decomposedCodes c.toNat).map Char.ofNat

/-- Puts a mark in front of a text where its class is not below that of the marks there. -/
def insertMark (c : Char) : List Char → List Char
  | [] => [c]
  | d :: rest =>
    if combiningClass d ≠ 0 && combiningClass d < combiningClass c then d :: insertMark c rest
    else c :: d :: rest

/-- A text with its marks in order. -/
def ordered (s : List Char) : List Char :=
  s.foldr insertMark []

/-- The character that is composed of a character and one behind it. -/
def composite? (a b : Char) : Option Char :=
  let first := a.toNat
  let second := b.toNat
  if 0x1100 ≤ first && first < 0x1113 && 0x1161 ≤ second && second < 0x1176 then
    some (Char.ofNat (firstSyllable + (first - 0x1100) * 588 + (second - 0x1161) * 28))
  else if firstSyllable ≤ first && first < firstSyllable + syllableCount &&
      (first - firstSyllable) % 28 = 0 && 0x11A7 < second && second < 0x11C3 then
    some (Char.ofNat (first + (second - 0x11A7)))
  else
    let parts := decomposedCodes first ++ [second]
    (composites.find? fun row => row.toList.drop 1 = parts).map fun row => Char.ofNat (rowStart row)

/-- Composes the characters of an ordered text. `start` is the last character that is no mark,
`marks` the marks behind it that stay, the last one first. -/
def composeFrom (start : Char) (marks : List Char) : List Char → List Char
  | [] => start :: marks.reverse
  | c :: rest =>
    let blocked :=
      match marks with
      | [] => false
      | m :: _ => combiningClass c ≤ combiningClass m
    match if blocked then none else composite? start c with
    | some d => composeFrom d marks rest
    | none =>
      if combiningClass c = 0 then start :: marks.reverse ++ composeFrom c [] rest
      else composeFrom start (c :: marks) rest

/-- The composed form of a text. -/
def composed (s : List Char) : List Char :=
  let parts := ordered (decomposed s)
  let marks := parts.takeWhile fun c => combiningClass c ≠ 0
  match parts.dropWhile fun c => combiningClass c ≠ 0 with
  | [] => marks
  | c :: rest => marks ++ composeFrom c [] rest

end ModBuild.Text
