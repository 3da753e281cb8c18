import ModBuild.Text.Ranges

/-!
# `ModBuild.Url.Idna.Direction`: labels written from right to left

A host that holds a letter written from right to left, or an Arabic digit, has to be readable in one
order only. So the labels of such a host keep to one direction each.
-/

set_option autoImplicit false

namespace ModBuild.Url.Idna

/-- How a character behaves where text runs in two directions. -/
inductive Direction where
  | left
  | right
  | arabicDigit
  | digit
  | neutral
  | mark
  deriving DecidableEq

/-- Ranges of characters by direction: 2 for right, 3 for Arabic digits, 4 for digits, 5 for neutral
ones and 6 for marks. All others are left. A character that no host holds may fall into any range.
-/
def directionRanges : Array (Array Nat) := Text.tableOf "
0.8.5 9.D.7 E.1B.5 1C.20.7 21.2F.5 30.39.4 3A.60.5 7B.D7.5 F7.F7.5 2B9.2BA.5 2C2.2CF.5 2D2.2ED.5
2EF.2FF.5 300.36F.6 375.375.5 3F6.3F6.5 483.489.6 58A.58F.5 591.5BD.6 5BE.5BE.2 5BF.5BF.6
5C0.5C0.2 5C1.5C2.6 5C3.5C3.2 5C4.5C5.6 5C6.5C6.2 5C7.5C7.6 5D0.5F4.2 606.607.5 608.608.2
609.60A.5 60B.60B.2 60C.60C.5 60D.60D.2 60E.60F.5 610.61A.6 61B.64A.2 64B.65F.6 660.669.3
66A.66A.5 66B.66C.3 66D.66F.2 670.670.6 671.6D5.2 6D6.6DC.6 6DE.6DE.5 6DF.6E4.6 6E5.6E6.2
6E7.6E8.6 6E9.6E9.5 6EA.6ED.6 6EE.6EF.2 6F0.6F9.4 6FA.710.2 711.711.6 712.72F.2 730.74A.6
74D.7A5.2 7A6.7B0.6 7B1.7EA.2 7EB.7F3.6 7F4.7F5.2 7F6.7F9.5 7FA.7FA.2 7FD.7FD.6 7FE.815.2
816.819.6 81A.81A.2 81B.823.6 824.824.2 825.827.6 828.828.2 829.82D.6 830.858.2 859.85B.6
85E.88F.2 897.89F.6 8A0.8C9.2 8CA.902.6 93A.93A.6 93C.93C.6 941.948.6 94D.94D.6 951.957.6
962.963.6 981.981.6 9BC.9BC.6 9C1.9C4.6 9CD.9CD.6 9E2.9E3.6 9F2.9F3.5 9FB.9FB.5 9FE.A02.6
A3C.A3C.6 A41.A51.6 A70.A71.6 A75.A75.6 A81.A82.6 ABC.ABC.6 AC1.AC8.6 ACD.ACD.6 AE2.AE3.6
AF1.AF1.5 AFA.B01.6 B3C.B3C.6 B3F.B3F.6 B41.B44.6 B4D.B56.6 B62.B63.6 B82.B82.6 BC0.BC0.6
BCD.BCD.6 BF3.BFA.5 C00.C00.6 C04.C04.6 C3C.C3C.6 C3E.C40.6 C46.C56.6 C62.C63.6 C78.C7E.5
C81.C81.6 CBC.CBC.6 CCC.CCD.6 CE2.CE3.6 D00.D01.6 D3B.D3C.6 D41.D44.6 D4D.D4D.6 D62.D63.6
D81.D81.6 DCA.DCA.6 DD2.DD6.6 E31.E31.6 E34.E3A.6 E3F.E3F.5 E47.E4E.6 EB1.EB1.6 EB4.EBC.6
EC8.ECE.6 F18.F19.6 F35.F35.6 F37.F37.6 F39.F39.6 F3A.F3D.5 F71.F7E.6 F80.F84.6 F86.F87.6
F8D.FBC.6 FC6.FC6.6 102D.1030.6 1032.1037.6 1039.103A.6 103D.103E.6 1058.1059.6 105E.1060.6
1071.1074.6 1082.1082.6 1085.1086.6 108D.108D.6 109D.109D.6 135D.135F.6 1390.1399.5 1400.1400.5
169B.169C.5 1712.1714.6 1732.1733.6 1752.1753.6 1772.1773.6 17B7.17BD.6 17C6.17C6.6 17C9.17D3.6
17DB.17DB.5 17DD.17DD.6 17F0.180A.5 1885.1886.6 18A9.18A9.6 1920.1922.6 1927.1928.6 1932.1932.6
1939.193B.6 1940.1945.5 19DE.19FF.5 1A17.1A18.6 1A1B.1A1B.6 1A56.1A56.6 1A58.1A60.6 1A62.1A62.6
1A65.1A6C.6 1A73.1A7F.6 1AB0.1B03.6 1B34.1B34.6 1B36.1B3A.6 1B3C.1B3C.6 1B42.1B42.6 1B6B.1B73.6
1B80.1B81.6 1BA2.1BA5.6 1BA8.1BA9.6 1BAB.1BAD.6 1BE6.1BE6.6 1BE8.1BE9.6 1BED.1BED.6 1BEF.1BF1.6
1C2C.1C33.6 1C36.1C37.6 1CD0.1CD2.6 1CD4.1CE0.6 1CE2.1CE8.6 1CED.1CED.6 1CF4.1CF4.6 1CF8.1CF9.6
1DC0.1DFF.6 200C.20C1.5 20D0.20F0.6 2104.214D.5 218A.2335.5 237B.2394.5 2396.26AB.5 26AD.27FF.5
2900.2BFF.5 2CE5.2CEA.5 2CEF.2CF1.6 2CF9.2CFF.5 2D7F.2D7F.6 2DE0.2DFF.6 2E00.3004.5 3008.3020.5
302A.302D.6 3030.3030.5 3037.3037.5 303D.303F.5 3099.309A.6 30A0.30A0.5 30FB.30FB.5 31C0.31E5.5
4DC0.4DFF.5 A490.A4C6.5 A60D.A60F.5 A66F.A672.6 A673.A673.5 A674.A67D.6 A67E.A67F.5 A69E.A69F.6
A6F0.A6F1.6 A700.A721.5 A788.A788.5 A802.A802.6 A806.A806.6 A80B.A80B.6 A825.A826.6 A828.A82B.5
A82C.A82C.6 A838.A839.5 A874.A877.5 A8C4.A8C5.6 A8E0.A8F1.6 A8FF.A8FF.6 A926.A92D.6 A947.A951.6
A980.A982.6 A9B3.A9B3.6 A9B6.A9B9.6 A9BC.A9BD.6 A9E5.A9E5.6 AA29.AA2E.6 AA31.AA32.6 AA35.AA36.6
AA43.AA43.6 AA4C.AA4C.6 AA7C.AA7C.6 AAB0.AAB0.6 AAB2.AAB4.6 AAB7.AAB8.6 AABE.AABF.6 AAC1.AAC1.6
AAEC.AAED.6 AAF6.AAF6.6 AB6A.AB6B.5 ABE5.ABE5.6 ABE8.ABE8.6 ABED.ABED.6 FB1E.FB1E.6 FBB2.FBC2.2
FBC3.FDFF.5 FE20.FE2F.6 FE45.FE46.5 FE73.FE73.2 10101.10101.5 10140.1018C.5 10190.101A0.5
101FD.101FD.6 102E0.102E0.6 102E1.102FB.4 10376.1037A.6 10800.1091B.2 1091F.1091F.5 10920.10A00.2
10A01.10A0F.6 10A10.10A35.2 10A38.10A3F.6 10A40.10AE4.2 10AE5.10AE6.6 10AEB.10B35.2 10B39.10B3F.5
10B40.10D23.2 10D24.10D27.6 10D30.10D49.3 10D4A.10D4F.2 10D69.10D6D.6 10D6E.10D6E.5 10D6F.10D8F.2
10E60.10E7E.3 10E80.10EA9.2 10EAB.10EAC.6 10EAD.10EC7.2 10ED0.10ED8.5 10EFA.10EFF.6 10F00.10F45.2
10F46.10F50.6 10F51.10F81.2 10F82.10F85.6 10F86.10FF6.2 11001.11001.6 11038.11046.6 11052.11065.5
11070.11070.6 11073.11074.6 1107F.11081.6 110B3.110B6.6 110B9.110BA.6 110C2.110C2.6 11100.11102.6
11127.1112B.6 1112D.11134.6 11173.11173.6 11180.11181.6 111B6.111BE.6 111C9.111CC.6 111CF.111CF.6
1122F.11231.6 11234.11234.6 11236.11237.6 1123E.1123E.6 11241.11241.6 112DF.112DF.6 112E3.112EA.6
11300.11301.6 1133B.1133C.6 11340.11340.6 11366.11374.6 113BB.113C0.6 113CE.113CE.6 113D0.113D0.6
113D2.113D2.6 113E1.113E2.6 11438.1143F.6 11442.11444.6 11446.11446.6 1145E.1145E.6 114B3.114B8.6
114BA.114BA.6 114BF.114C0.6 114C2.114C3.6 115B2.115B5.6 115BC.115BD.6 115BF.115C0.6 115DC.115DD.6
11633.1163A.6 1163D.1163D.6 1163F.11640.6 11660.1166C.5 116AB.116AB.6 116AD.116AD.6 116B0.116B5.6
116B7.116B7.6 1171D.1171F.6 11722.11725.6 11727.1172B.6 1182F.11837.6 11839.1183A.6 1193B.1193C.6
1193E.1193E.6 11943.11943.6 119D4.119DB.6 119E0.119E0.6 11A01.11A06.6 11A09.11A0A.6 11A33.11A38.6
11A3B.11A3E.6 11A47.11A47.6 11A51.11A56.6 11A59.11A5B.6 11A8A.11A96.6 11A98.11A99.6 11B60.11B60.6
11B62.11B64.6 11B66.11B66.6 11C30.11C3D.6 11C92.11CA7.6 11CAA.11CB0.6 11CB2.11CB3.6 11CB5.11CB6.6
11D31.11D45.6 11D47.11D47.6 11D90.11D91.6 11D95.11D95.6 11D97.11D97.6 11EF3.11EF4.6 11F00.11F01.6
11F36.11F3A.6 11F40.11F40.6 11F42.11F42.6 11F5A.11F5A.6 11FD5.11FF1.5 13440.13440.6 13447.13455.6
1611E.16129.6 1612D.1612F.6 16AF0.16AF4.6 16B30.16B36.6 16F4F.16F4F.6 16F8F.16F92.6 16FE2.16FE2.5
16FE4.16FE4.6 1BC9D.1BC9E.6 1CC00.1CEF0.5 1CF00.1CF46.6 1D167.1D169.6 1D17B.1D182.6 1D185.1D18B.6
1D1AA.1D1AD.6 1D1E9.1D241.5 1D242.1D244.6 1D245.1D245.5 1D300.1D356.5 1DA00.1DA36.6 1DA3B.1DA6C.6
1DA75.1DA75.6 1DA84.1DA84.6 1DA9B.1DAAF.6 1E000.1E08F.6 1E130.1E136.6 1E2AE.1E2AE.6 1E2EC.1E2EF.6
1E2FF.1E2FF.5 1E4EC.1E4EF.6 1E5EE.1E5EF.6 1E6E3.1E6E3.6 1E6E6.1E6E6.6 1E6EE.1E6EF.6 1E6F5.1E6F5.6
1E800.1E8CF.2 1E8D0.1E8D6.6 1E922.1E943.2 1E944.1E94A.6 1E94B.1ED3D.2 1EEF0.1F12F.5 1F16D.1F16F.5
1F1AD.1F1AD.5 1F260.1FBFA.5"

/-- The direction of a character. -/
def direction (c : Char) : Direction :=
  match Text.rowAt? directionRanges c.toNat with
  | none => .left
  | some row =>
    if c.toNat ≤ Text.rowStop row then
      match row.getD 2 0 with
      | 2 => .right
      | 3 => .arabicDigit
      | 4 => .digit
      | 5 => .neutral
      | 6 => .mark
      | _ => .left
    else .left

/-- The host holds characters that run from right to left. -/
def runsRight (host : List Char) : Bool :=
  host.any fun c => direction c = .right || direction c = .arabicDigit

/-- A label keeps to one direction. It starts with a letter, ends in a letter or a digit apart from
marks, holds no letter of the other direction, and does not mix digits with Arabic digits. -/
def keepsDirection (label : List Char) : Bool :=
  let all := label.map direction
  let core := (all.reverse.dropWhile (· = .mark)).reverse
  match all with
  | [] => true
  | .left :: _ =>
    all.all (fun d => d ≠ .right && d ≠ .arabicDigit) &&
      (core.length ≤ 1 || core.getLast? = some .left || core.getLast? = some .digit)
  | .right :: _ =>
    all.all (· ≠ .left) && !(all.contains .digit && all.contains .arabicDigit) &&
      core.getLast? ≠ some .neutral
  | _ => false

end ModBuild.Url.Idna
