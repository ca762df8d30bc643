/-
  The general category of every code point (Unicode 16.0).

  `runs` cuts the code points into runs of one two-letter category, and `set` collects the runs whose
  category is in a list.  A group of categories (`L`, `M`, …) is the list of its members: `members`.
-/
import Descent.Unicode.Run

namespace Descent.Unicode.Category

/-- Runs of one general category, as distances between their starts. -/
def table : String :=
  "0Cc 32Zs 1Po 3Sc 1Po 3Ps 1Pe 1Po 1Sm 1Po 1Pd 1Po 2Nd 10Po 2Sm 3Po 2Lu 26Ps 1Po 1Pe 1Sk 1Pc 1Sk
  1Ll 26Ps 1Sm 1Pe 1Sm 1Cc 33Zs 1Po 1Sc 4So 1Po 1Sk 1So 1Lo 1Pi 1Sm 1Cf 1So 1Sk 1So 1Sm 1No 2Sk
  1Ll 1Po 2Sk 1No 1Lo 1Pf 1No 3Po 1Lu 23Sm 1Lu 7Ll 24Sm 1Ll 8Lu 1Ll 1Lu 1Ll 1Lu 1Ll 1Lu 1Ll 1Lu
  1Ll 1Lu 1Ll 1Lu 1Ll 1Lu 1Ll 1Lu 1Ll 1Lu 1Ll 1Lu 1Ll 1Lu 1Ll 1Lu 1Ll 1Lu 1Ll 1Lu 1Ll 1Lu 1Ll
  1Lu 1Ll 1Lu 1Ll 1Lu 1Ll 1Lu 1Ll 1Lu 1Ll 1Lu 1Ll 1Lu 1Ll 1Lu 1Ll 1Lu 1Ll 1Lu 1Ll 1Lu 1Ll 1Lu
  1Ll 2Lu 1Ll 1Lu 1Ll 1Lu 1Ll 1Lu 1Ll 1Lu 1Ll 1Lu 1Ll 1Lu 1Ll 1Lu 1Ll 2Lu 1Ll 1Lu 1Ll 1Lu 1Ll
  1Lu 1Ll 1Lu 1Ll 1Lu 1Ll 1Lu 1Ll 1Lu 1Ll 1Lu 1Ll 1Lu 1Ll 1Lu 1Ll 1Lu 1Ll 1Lu 1Ll 1Lu 1Ll 1Lu
  1Ll 1Lu 1Ll 1Lu 1Ll 1Lu 1Ll 1Lu 1Ll 1Lu 1Ll 1Lu 1Ll 1Lu 1Ll 1Lu 1Ll 1Lu 2Ll 1Lu 1Ll 1Lu 1Ll
  3Lu 2Ll 1Lu 1Ll 1Lu 2Ll 1Lu 3Ll 2Lu 4Ll 1Lu 2Ll 1Lu 3Ll 3Lu 2Ll 1Lu 2Ll 1Lu 1Ll 1Lu 1Ll 1Lu
  2Ll 1Lu 1Ll 2Lu 1Ll 1Lu 2Ll 1Lu 3Ll 1Lu 1Ll 1Lu 2Ll 2Lo 1Lu 1Ll 3Lo 4Lu 1Lt 1Ll 1Lu 1Lt 1Ll
  1Lu 1Lt 1Ll 1Lu 1Ll 1Lu 1Ll 1Lu 1Ll 1Lu 1Ll 1Lu 1Ll 1Lu 1Ll 1Lu 1Ll 1Lu 1Ll 2Lu 1Ll 1Lu 1Ll
  1Lu 1Ll 1Lu 1Ll 1Lu 1Ll 1Lu 1Ll 1Lu 1Ll 1Lu 1Ll 1Lu 1Ll 2Lu 1Lt 1Ll 1Lu 1Ll 1Lu 3Ll 1Lu 1Ll
  1Lu 1Ll 1Lu 1Ll 1Lu 1Ll 1Lu 1Ll 1Lu 1Ll 1Lu 1Ll 1Lu 1Ll 1Lu 1Ll 1Lu 1Ll 1Lu 1Ll 1Lu 1Ll 1Lu
  1Ll 1Lu 1Ll 1Lu 1Ll 1Lu 1Ll 1Lu 1Ll 1Lu 1Ll 1Lu 1Ll 1Lu 1Ll 1Lu 1Ll 1Lu 1Ll 1Lu 1Ll 1Lu 1Ll
  1Lu 1Ll 1Lu 1Ll 1Lu 1Ll 1Lu 1Ll 1Lu 1Ll 7Lu 2Ll 1Lu 2Ll 2Lu 1Ll 1Lu 4Ll 1Lu 1Ll 1Lu 1Ll 1Lu
  1Ll 1Lu 1Ll 69Lo 1Ll 27Lm 18Sk 4Lm 12Sk 14Lm 5Sk 7Lm 1Sk 1Lm 1Sk 17Mn 112Lu 1Ll 1Lu 1Ll 1Lm
  1Sk 1Lu 1Ll 1Cn 2Lm 1Ll 3Po 1Lu 1Cn 4Sk 2Lu 1Po 1Lu 3Cn 1Lu 1Cn 1Lu 2Ll 1Lu 17Cn 1Lu 9Ll 35Lu
  1Ll 2Lu 3Ll 3Lu 1Ll 1Lu 1Ll 1Lu 1Ll 1Lu 1Ll 1Lu 1Ll 1Lu 1Ll 1Lu 1Ll 1Lu 1Ll 1Lu 1Ll 1Lu 1Ll
  1Lu 1Ll 1Lu 1Ll 5Lu 1Ll 1Sm 1Lu 1Ll 1Lu 2Ll 2Lu 51Ll 48Lu 1Ll 1Lu 1Ll 1Lu 1Ll 1Lu 1Ll 1Lu 1Ll
  1Lu 1Ll 1Lu 1Ll 1Lu 1Ll 1Lu 1Ll 1Lu 1Ll 1Lu 1Ll 1Lu 1Ll 1Lu 1Ll 1Lu 1Ll 1Lu 1Ll 1Lu 1Ll 1Lu
  1Ll 1So 1Mn 5Me 2Lu 1Ll 1Lu 1Ll 1Lu 1Ll 1Lu 1Ll 1Lu 1Ll 1Lu 1Ll 1Lu 1Ll 1Lu 1Ll 1Lu 1Ll 1Lu
  1Ll 1Lu 1Ll 1Lu 1Ll 1Lu 1Ll 1Lu 1Ll 1Lu 1Ll 1Lu 1Ll 1Lu 1Ll 1Lu 1Ll 1Lu 1Ll 1Lu 1Ll 1Lu 1Ll
  1Lu 1Ll 1Lu 1Ll 1Lu 1Ll 1Lu 1Ll 1Lu 1Ll 1Lu 1Ll 1Lu 2Ll 1Lu 1Ll 1Lu 1Ll 1Lu 1Ll 1Lu 1Ll 1Lu
  1Ll 1Lu 1Ll 2Lu 1Ll 1Lu 1Ll 1Lu 1Ll 1Lu 1Ll 1Lu 1Ll 1Lu 1Ll 1Lu 1Ll 1Lu 1Ll 1Lu 1Ll 1Lu 1Ll
  1Lu 1Ll 1Lu 1Ll 1Lu 1Ll 1Lu 1Ll 1Lu 1Ll 1Lu 1Ll 1Lu 1Ll 1Lu 1Ll 1Lu 1Ll 1Lu 1Ll 1Lu 1Ll 1Lu
  1Ll 1Lu 1Ll 1Lu 1Ll 1Lu 1Ll 1Lu 1Ll 1Lu 1Ll 1Lu 1Ll 1Lu 1Ll 1Lu 1Ll 1Lu 1Ll 1Lu 1Ll 1Lu 1Ll
  1Lu 1Ll 1Lu 1Ll 1Lu 1Ll 1Lu 1Ll 1Lu 1Ll 1Lu 1Ll 1Lu 1Ll 1Lu 1Ll 1Lu 1Ll 1Lu 1Ll 1Lu 1Ll 1Lu
  1Ll 1Lu 1Ll 1Lu 1Ll 1Lu 1Ll 1Cn 1Lu 38Cn 2Lm 1Po 6Ll 41Po 1Pd 1Cn 2So 2Sc 1Cn 1Mn 45Pd 1Mn 1Po
  1Mn 2Po 1Mn 2Po 1Mn 1Cn 8Lo 27Cn 4Lo 4Po 2Cn 11Cf 6Sm 3Po 2Sc 1Po 2So 2Mn 11Po 1Cf 1Po 3Lo
  32Lm 1Lo 10Mn 21Nd 10Po 4Lo 2Mn 1Lo 99Po 1Lo 1Mn 7Cf 1So 1Mn 6Lm 2Mn 2So 1Mn 4Lo 2Nd 10Lo 3So
  2Lo 1Po 14Cn 1Cf 1Lo 1Mn 1Lo 30Mn 27Cn 2Lo 89Mn 11Lo 1Cn 14Nd 10Lo 33Mn 9Lm 2So 1Po 3Lm 1Cn
  2Mn 1Sc 2Lo 22Mn 4Lm 1Mn 9Lm 1Mn 3Lm 1Mn 5Cn 2Po 15Cn 1Lo 25Mn 3Cn 2Po 1Cn 1Lo 11Cn 5Lo 24Sk
  1Lo 6Cn 1Cf 2Cn 5Mn 9Lo 41Lm 1Mn 24Cf 1Mn 32Mc 1Lo 54Mn 1Mc 1Mn 1Lo 1Mc 3Mn 8Mc 4Mn 1Mc 2Lo
  1Mn 7Lo 10Mn 2Po 2Nd 10Po 1Lm 1Lo 15Mn 1Mc 2Cn 1Lo 8Cn 2Lo 2Cn 2Lo 22Cn 1Lo 7Cn 1Lo 1Cn 3Lo
  4Cn 2Mn 1Lo 1Mc 3Mn 4Cn 2Mc 2Cn 2Mc 2Mn 1Lo 1Cn 8Mc 1Cn 4Lo 2Cn 1Lo 3Mn 2Cn 2Nd 10Lo 2Sc 2No
  6So 1Sc 1Lo 1Po 1Mn 1Cn 2Mn 2Mc 1Cn 1Lo 6Cn 4Lo 2Cn 2Lo 22Cn 1Lo 7Cn 1Lo 2Cn 1Lo 2Cn 1Lo 2Cn
  2Mn 1Cn 1Mc 3Mn 2Cn 4Mn 2Cn 2Mn 3Cn 3Mn 1Cn 7Lo 4Cn 1Lo 1Cn 7Nd 10Mn 2Lo 3Mn 1Po 1Cn 10Mn 2Mc
  1Cn 1Lo 9Cn 1Lo 3Cn 1Lo 22Cn 1Lo 7Cn 1Lo 2Cn 1Lo 5Cn 2Mn 1Lo 1Mc 3Mn 5Cn 1Mn 2Mc 1Cn 1Mc 2Mn
  1Cn 2Lo 1Cn 15Lo 2Mn 2Cn 2Nd 10Po 1Sc 1Cn 7Lo 1Mn 6Cn 1Mn 1Mc 2Cn 1Lo 8Cn 2Lo 2Cn 2Lo 22Cn 1Lo
  7Cn 1Lo 2Cn 1Lo 5Cn 2Mn 1Lo 1Mc 1Mn 1Mc 1Mn 4Cn 2Mc 2Cn 2Mc 2Mn 1Cn 7Mn 2Mc 1Cn 4Lo 2Cn 1Lo
  3Mn 2Cn 2Nd 10So 1Lo 1No 6Cn 10Mn 1Lo 1Cn 1Lo 6Cn 3Lo 3Cn 1Lo 4Cn 3Lo 2Cn 1Lo 1Cn 1Lo 2Cn 3Lo
  2Cn 3Lo 3Cn 3Lo 12Cn 4Mc 2Mn 1Mc 2Cn 3Mc 3Cn 1Mc 3Mn 1Cn 2Lo 1Cn 6Mc 1Cn 14Nd 10No 3So 6Sc 1So
  1Cn 5Mn 1Mc 3Mn 1Lo 8Cn 1Lo 3Cn 1Lo 23Cn 1Lo 16Cn 2Mn 1Lo 1Mn 3Mc 4Cn 1Mn 3Cn 1Mn 4Cn 7Mn 2Cn
  1Lo 3Cn 2Lo 1Cn 2Lo 2Mn 2Cn 2Nd 10Cn 7Po 1No 7So 1Lo 1Mn 1Mc 2Po 1Lo 8Cn 1Lo 3Cn 1Lo 23Cn 1Lo
  10Cn 1Lo 5Cn 2Mn 1Lo 1Mc 1Mn 1Mc 5Cn 1Mn 1Mc 2Cn 1Mc 2Mn 2Cn 7Mc 2Cn 6Lo 2Cn 1Lo 2Mn 2Cn 2Nd
  10Cn 1Lo 2Mc 1Cn 12Mn 2Mc 2Lo 9Cn 1Lo 3Cn 1Lo 41Mn 2Lo 1Mc 3Mn 4Cn 1Mc 3Cn 1Mc 3Mn 1Lo 1So 1Cn
  4Lo 3Mc 1No 7Lo 3Mn 2Cn 2Nd 10No 9So 1Lo 6Cn 1Mn 1Mc 2Cn 1Lo 18Cn 3Lo 24Cn 1Lo 9Cn 1Lo 1Cn 2Lo
  7Cn 3Mn 1Cn 4Mc 3Mn 3Cn 1Mn 1Cn 1Mc 8Cn 6Nd 10Cn 2Mc 2Po 1Cn 12Lo 48Mn 1Lo 2Mn 7Cn 4Sc 1Lo 6Lm
  1Mn 8Po 1Nd 10Po 2Cn 37Lo 2Cn 1Lo 1Cn 1Lo 5Cn 1Lo 24Cn 1Lo 1Cn 1Lo 10Mn 1Lo 2Mn 9Lo 1Cn 2Lo
  5Cn 1Lm 1Cn 1Mn 7Cn 1Nd 10Cn 2Lo 4Cn 32Lo 1So 3Po 15So 1Po 1So 3Mn 2So 6Nd 10No 10So 1Mn 1So
  1Mn 1So 1Mn 1Ps 1Pe 1Ps 1Pe 1Mc 2Lo 8Cn 1Lo 36Cn 4Mn 14Mc 1Mn 5Po 1Mn 2Lo 5Mn 11Cn 1Mn 36Cn
  1So 8Mn 1So 6Cn 1So 2Po 5So 4Po 2Cn 37Lo 43Mc 2Mn 4Mc 1Mn 6Mc 1Mn 2Mc 2Mn 2Lo 1Nd 10Po 6Lo 6Mc
  2Mn 2Lo 4Mn 3Lo 1Mc 3Lo 2Mc 7Lo 3Mn 4Lo 13Mn 1Mc 2Mn 2Mc 6Mn 1Lo 1Mc 1Nd 10Mc 3Mn 1So 2Lu 38Cn
  1Lu 1Cn 5Lu 1Cn 2Ll 43Po 1Lm 1Ll 3Lo 329Cn 1Lo 4Cn 2Lo 7Cn 1Lo 1Cn 1Lo 4Cn 2Lo 41Cn 1Lo 4Cn
  2Lo 33Cn 1Lo 4Cn 2Lo 7Cn 1Lo 1Cn 1Lo 4Cn 2Lo 15Cn 1Lo 57Cn 1Lo 4Cn 2Lo 67Cn 2Mn 3Po 9No 20Cn
  3Lo 16So 10Cn 6Lu 86Cn 2Ll 6Cn 2Pd 1Lo 620So 1Po 1Lo 17Zs 1Lo 26Ps 1Pe 1Cn 3Lo 75Po 3Nl 3Lo
  8Cn 7Lo 18Mn 3Mc 1Cn 9Lo 19Mn 2Mc 1Po 2Cn 9Lo 18Mn 2Cn 12Lo 13Cn 1Lo 3Cn 1Mn 2Cn 12Lo 52Mn 2Mc
  1Mn 7Mc 8Mn 1Mc 2Mn 11Po 3Lm 1Po 3Sc 1Lo 1Mn 1Cn 2Nd 10Cn 6No 10Cn 6Po 6Pd 1Po 4Mn 3Cf 1Mn 1Nd
  10Cn 6Lo 35Lm 1Lo 53Cn 7Lo 5Mn 2Lo 34Mn 1Lo 1Cn 5Lo 70Cn 10Lo 31Cn 1Mn 3Mc 4Mn 2Mc 3Cn 4Mc 2Mn
  1Mc 6Mn 3Cn 4So 1Cn 3Po 2Nd 10Lo 30Cn 2Lo 5Cn 11Lo 44Cn 4Lo 26Cn 6Nd 10No 1Cn 3So 34Lo 23Mn
  2Mc 2Mn 1Cn 2Po 2Lo 53Mc 1Mn 1Mc 1Mn 7Cn 1Mn 1Mc 1Mn 1Mc 2Mn 8Mc 6Mn 10Cn 2Mn 1Nd 10Cn 6Nd
  10Cn 6Po 7Lm 1Po 6Cn 2Mn 14Me 1Mn 16Cn 49Mn 4Mc 1Lo 47Mn 1Mc 1Mn 5Mc 1Mn 1Mc 5Mn 1Mc 2Lo 8Cn
  1Po 2Nd 10Po 7So 10Mn 9So 9Po 3Mn 2Mc 1Lo 30Mc 1Mn 4Mc 2Mn 2Mc 1Mn 3Lo 2Nd 10Lo 44Mn 1Mc 1Mn
  2Mc 3Mn 1Mc 1Mn 3Mc 2Cn 8Po 4Lo 36Mc 8Mn 8Mc 2Mn 2Cn 3Po 5Nd 10Cn 3Lo 3Nd 10Lo 30Lm 6Po 2Ll
  9Lu 1Ll 1Cn 5Lu 43Cn 2Lu 3Po 8Cn 8Mn 3Po 1Mn 13Mc 1Mn 7Lo 4Mn 1Lo 6Mn 1Lo 2Mc 1Mn 2Lo 1Cn 5Ll
  44Lm 63Ll 13Lm 1Ll 34Lm 37Mn 64Lu 1Ll 1Lu 1Ll 1Lu 1Ll 1Lu 1Ll 1Lu 1Ll 1Lu 1Ll 1Lu 1Ll 1Lu 1Ll
  1Lu 1Ll 1Lu 1Ll 1Lu 1Ll 1Lu 1Ll 1Lu 1Ll 1Lu 1Ll 1Lu 1Ll 1Lu 1Ll 1Lu 1Ll 1Lu 1Ll 1Lu 1Ll 1Lu
  1Ll 1Lu 1Ll 1Lu 1Ll 1Lu 1Ll 1Lu 1Ll 1Lu 1Ll 1Lu 1Ll 1Lu 1Ll 1Lu 1Ll 1Lu 1Ll 1Lu 1Ll 1Lu 1Ll
  1Lu 1Ll 1Lu 1Ll 1Lu 1Ll 1Lu 1Ll 1Lu 1Ll 1Lu 1Ll 1Lu 1Ll 1Lu 1Ll 1Lu 1Ll 1Lu 1Ll 1Lu 1Ll 1Lu
  1Ll 1Lu 1Ll 1Lu 1Ll 1Lu 1Ll 1Lu 1Ll 1Lu 1Ll 1Lu 1Ll 1Lu 1Ll 1Lu 1Ll 1Lu 1Ll 1Lu 1Ll 1Lu 1Ll
  1Lu 1Ll 1Lu 1Ll 1Lu 1Ll 1Lu 1Ll 1Lu 1Ll 1Lu 1Ll 1Lu 1Ll 1Lu 1Ll 1Lu 1Ll 1Lu 1Ll 1Lu 1Ll 1Lu
  1Ll 1Lu 1Ll 1Lu 1Ll 1Lu 1Ll 1Lu 1Ll 1Lu 1Ll 1Lu 1Ll 1Lu 1Ll 1Lu 1Ll 1Lu 1Ll 9Lu 1Ll 1Lu 1Ll
  1Lu 1Ll 1Lu 1Ll 1Lu 1Ll 1Lu 1Ll 1Lu 1Ll 1Lu 1Ll 1Lu 1Ll 1Lu 1Ll 1Lu 1Ll 1Lu 1Ll 1Lu 1Ll 1Lu
  1Ll 1Lu 1Ll 1Lu 1Ll 1Lu 1Ll 1Lu 1Ll 1Lu 1Ll 1Lu 1Ll 1Lu 1Ll 1Lu 1Ll 1Lu 1Ll 1Lu 1Ll 1Lu 1Ll
  1Lu 1Ll 1Lu 1Ll 1Lu 1Ll 1Lu 1Ll 1Lu 1Ll 1Lu 1Ll 1Lu 1Ll 1Lu 1Ll 1Lu 1Ll 1Lu 1Ll 1Lu 1Ll 1Lu
  1Ll 1Lu 1Ll 1Lu 1Ll 1Lu 1Ll 1Lu 1Ll 1Lu 1Ll 1Lu 1Ll 1Lu 1Ll 1Lu 1Ll 1Lu 1Ll 1Lu 1Ll 1Lu 1Ll
  1Lu 1Ll 9Lu 8Ll 6Cn 2Lu 6Cn 2Ll 8Lu 8Ll 8Lu 8Ll 6Cn 2Lu 6Cn 2Ll 8Cn 1Lu 1Cn 1Lu 1Cn 1Lu 1Cn
  1Lu 1Ll 8Lu 8Ll 14Cn 2Ll 8Lt 8Ll 8Lt 8Ll 8Lt 8Ll 5Cn 1Ll 2Lu 4Lt 1Sk 1Ll 1Sk 3Ll 3Cn 1Ll 2Lu
  4Lt 1Sk 3Ll 4Cn 2Ll 2Lu 4Cn 1Sk 3Ll 8Lu 5Sk 3Cn 2Ll 3Cn 1Ll 2Lu 4Lt 1Sk 2Cn 1Zs 11Cf 5Pd 6Po
  2Pi 1Pf 1Ps 1Pi 2Pf 1Ps 1Pi 1Po 8Zl 1Zp 1Cf 5Zs 1Po 9Pi 1Pf 1Po 4Pc 2Po 3Sm 1Ps 1Pe 1Po 11Sm
  1Po 1Pc 1Po 10Zs 1Cf 5Cn 1Cf 10No 1Lm 1Cn 2No 6Sm 3Ps 1Pe 1Lm 1No 10Sm 3Ps 1Pe 1Cn 1Lm 13Cn
  3Sc 33Cn 15Mn 13Me 4Mn 1Me 3Mn 12Cn 15So 2Lu 1So 4Lu 1So 2Ll 1Lu 3Ll 2Lu 3Ll 1So 1Lu 1So 2Sm
  1Lu 5So 6Lu 1So 1Lu 1So 1Lu 1So 1Lu 4So 1Ll 1Lu 4Ll 1Lo 4Ll 1So 2Ll 2Lu 2Sm 5Lu 1Ll 4So 1Sm
  1So 2Ll 1So 1No 16Nl 35Lu 1Ll 1Nl 4No 1So 2Cn 4Sm 5So 5Sm 2So 4Sm 1So 2Sm 1So 2Sm 1So 7Sm 1So
  31Sm 2So 2Sm 1So 1Sm 1So 31Sm 268So 8Ps 1Pe 1Ps 1Pe 1So 20Sm 2So 7Ps 1Pe 1So 81Sm 1So 30Sm
  25So 40Sm 6So 72Cn 22So 11Cn 21No 60So 78No 22So 183Sm 1So 9Sm 1So 54Sm 8So 111Sm 1So 248Ps
  1Pe 1Ps 1Pe 1Ps 1Pe 1Ps 1Pe 1Ps 1Pe 1Ps 1Pe 1Ps 1Pe 1No 30So 44Sm 5Ps 1Pe 1Sm 31Ps 1Pe 1Ps 1Pe
  1Ps 1Pe 1Ps 1Pe 1Ps 1Pe 1Sm 16So 256Sm 131Ps 1Pe 1Ps 1Pe 1Ps 1Pe 1Ps 1Pe 1Ps 1Pe 1Ps 1Pe 1Ps
  1Pe 1Ps 1Pe 1Ps 1Pe 1Ps 1Pe 1Ps 1Pe 1Sm 63Ps 1Pe 1Ps 1Pe 1Sm 32Ps 1Pe 1Sm 258So 48Sm 21So 2Sm
  6So 39Cn 2So 32Cn 1So 105Lu 48Ll 48Lu 1Ll 1Lu 3Ll 2Lu 1Ll 1Lu 1Ll 1Lu 1Ll 1Lu 4Ll 1Lu 1Ll 2Lu
  1Ll 6Lm 2Lu 3Ll 1Lu 1Ll 1Lu 1Ll 1Lu 1Ll 1Lu 1Ll 1Lu 1Ll 1Lu 1Ll 1Lu 1Ll 1Lu 1Ll 1Lu 1Ll 1Lu
  1Ll 1Lu 1Ll 1Lu 1Ll 1Lu 1Ll 1Lu 1Ll 1Lu 1Ll 1Lu 1Ll 1Lu 1Ll 1Lu 1Ll 1Lu 1Ll 1Lu 1Ll 1Lu 1Ll
  1Lu 1Ll 1Lu 1Ll 1Lu 1Ll 1Lu 1Ll 1Lu 1Ll 1Lu 1Ll 1Lu 1Ll 1Lu 1Ll 1Lu 1Ll 1Lu 1Ll 1Lu 1Ll 1Lu
  1Ll 1Lu 1Ll 1Lu 1Ll 1Lu 1Ll 1Lu 1Ll 1Lu 1Ll 1Lu 1Ll 1Lu 1Ll 1Lu 1Ll 1Lu 1Ll 1Lu 1Ll 1Lu 1Ll
  1Lu 1Ll 1Lu 1Ll 1Lu 1Ll 1Lu 1Ll 1Lu 1Ll 2So 6Lu 1Ll 1Lu 1Ll 1Mn 3Lu 1Ll 1Cn 5Po 4No 1Po 2Ll
  38Cn 1Ll 1Cn 5Ll 1Cn 2Lo 56Cn 7Lm 1Po 1Cn 14Mn 1Lo 23Cn 9Lo 7Cn 1Lo 7Cn 1Lo 7Cn 1Lo 7Cn 1Lo
  7Cn 1Lo 7Cn 1Lo 7Cn 1Lo 7Cn 1Mn 32Po 2Pi 1Pf 1Pi 1Pf 1Po 3Pi 1Pf 1Po 1Pi 1Pf 1Po 9Pd 1Po 2Pd
  1Po 1Pi 1Pf 1Po 2Pi 1Pf 1Ps 1Pe 1Ps 1Pe 1Ps 1Pe 1Ps 1Pe 1Po 5Lm 1Po 10Pd 2Po 4Pd 1Po 1Ps 1Po
  13So 2Po 3Ps 1Pe 1Ps 1Pe 1Ps 1Pe 1Ps 1Pe 1Pd 1Cn 34So 26Cn 1So 89Cn 12So 214Cn 26So 16Zs 1Po
  3So 1Lm 1Lo 1Nl 1Ps 1Pe 1Ps 1Pe 1Ps 1Pe 1Ps 1Pe 1Ps 1Pe 1So 2Ps 1Pe 1Ps 1Pe 1Ps 1Pe 1Ps 1Pe
  1Pd 1Ps 1Pe 2So 1Nl 9Mn 4Mc 2Pd 1Lm 5So 2Nl 3Lm 1Lo 1Po 1So 2Cn 1Lo 86Cn 2Mn 2Sk 2Lm 2Lo 1Pd
  1Lo 90Po 1Lm 3Lo 1Cn 5Lo 43Cn 1Lo 94Cn 1So 2No 4So 10Lo 32So 38Cn 9So 1Lo 16So 31Cn 1No 10So
  30No 8So 1No 15So 32No 10So 39No 15So 320Lo 6592So 64Lo 21013Lm 1Lo 1143Cn 3So 55Cn 9Lo 40Lm
  6Po 2Lo 268Lm 1Po 3Lo 16Nd 10Lo 2Cn 20Lu 1Ll 1Lu 1Ll 1Lu 1Ll 1Lu 1Ll 1Lu 1Ll 1Lu 1Ll 1Lu 1Ll
  1Lu 1Ll 1Lu 1Ll 1Lu 1Ll 1Lu 1Ll 1Lu 1Ll 1Lu 1Ll 1Lu 1Ll 1Lu 1Ll 1Lu 1Ll 1Lu 1Ll 1Lu 1Ll 1Lu
  1Ll 1Lu 1Ll 1Lu 1Ll 1Lu 1Ll 1Lu 1Ll 1Lo 1Mn 1Me 3Po 1Mn 10Po 1Lm 1Lu 1Ll 1Lu 1Ll 1Lu 1Ll 1Lu
  1Ll 1Lu 1Ll 1Lu 1Ll 1Lu 1Ll 1Lu 1Ll 1Lu 1Ll 1Lu 1Ll 1Lu 1Ll 1Lu 1Ll 1Lu 1Ll 1Lu 1Ll 1Lm 2Mn
  2Lo 70Nl 10Mn 2Po 6Cn 8Sk 23Lm 9Sk 2Lu 1Ll 1Lu 1Ll 1Lu 1Ll 1Lu 1Ll 1Lu 1Ll 1Lu 1Ll 1Lu 1Ll 3Lu
  1Ll 1Lu 1Ll 1Lu 1Ll 1Lu 1Ll 1Lu 1Ll 1Lu 1Ll 1Lu 1Ll 1Lu 1Ll 1Lu 1Ll 1Lu 1Ll 1Lu 1Ll 1Lu 1Ll
  1Lu 1Ll 1Lu 1Ll 1Lu 1Ll 1Lu 1Ll 1Lu 1Ll 1Lu 1Ll 1Lu 1Ll 1Lu 1Ll 1Lu 1Ll 1Lu 1Ll 1Lu 1Ll 1Lu
  1Ll 1Lu 1Ll 1Lu 1Ll 1Lu 1Ll 1Lu 1Ll 1Lu 1Ll 1Lu 1Ll 1Lu 1Ll 1Lm 1Ll 8Lu 1Ll 1Lu 1Ll 1Lu 2Ll
  1Lu 1Ll 1Lu 1Ll 1Lu 1Ll 1Lu 1Ll 1Lm 1Sk 2Lu 1Ll 1Lu 1Ll 1Lo 1Lu 1Ll 1Lu 1Ll 3Lu 1Ll 1Lu 1Ll
  1Lu 1Ll 1Lu 1Ll 1Lu 1Ll 1Lu 1Ll 1Lu 1Ll 1Lu 1Ll 1Lu 1Ll 1Lu 1Ll 1Lu 5Ll 1Lu 5Ll 1Lu 1Ll 1Lu
  1Ll 1Lu 1Ll 1Lu 1Ll 1Lu 1Ll 1Lu 1Ll 1Lu 1Ll 1Lu 4Ll 1Lu 1Ll 1Lu 2Ll 1Cn 2Lu 1Ll 1Cn 1Ll 1Cn
  1Ll 1Lu 1Ll 1Lu 1Ll 1Lu 1Ll 1Lu 1Cn 21Lm 3Lu 1Ll 1Lo 1Lm 2Ll 1Lo 7Mn 1Lo 3Mn 1Lo 4Mn 1Lo 23Mc
  2Mn 2Mc 1So 4Mn 1Cn 3No 6So 2Sc 1So 1Cn 6Lo 52Po 4Cn 8Mc 2Lo 50Mc 16Mn 2Cn 8Po 2Nd 10Cn 6Mn
  18Lo 6Po 3Lo 1Po 1Lo 2Mn 1Nd 10Lo 28Mn 8Po 2Lo 23Mn 11Mc 2Cn 11Po 1Lo 29Cn 3Mn 3Mc 1Lo 47Mn
  1Mc 2Mn 4Mc 2Mn 2Mc 3Po 13Cn 1Lm 1Nd 10Cn 4Po 2Lo 5Mn 1Lm 1Lo 9Nd 10Lo 5Cn 1Lo 41Mn 6Mc 2Mn
  2Mc 2Mn 2Cn 9Lo 3Mn 1Lo 8Mn 1Mc 1Cn 2Nd 10Cn 2Po 4Lo 16Lm 1Lo 6So 3Lo 1Mc 1Mn 1Mc 1Lo 50Mn 1Lo
  1Mn 3Lo 2Mn 2Lo 5Mn 2Lo 1Mn 1Lo 1Cn 24Lo 2Lm 1Po 2Lo 11Mc 1Mn 2Mc 2Po 2Lo 1Lm 2Mc 1Mn 1Cn 10Lo
  6Cn 2Lo 6Cn 2Lo 6Cn 9Lo 7Cn 1Lo 7Cn 1Ll 43Sk 1Lm 4Ll 9Lm 1Sk 2Cn 4Ll 80Lo 35Mc 2Mn 1Mc 2Mn 1Mc
  2Po 1Mc 1Mn 1Cn 2Nd 10Cn 6Lo 11172Cn 12Lo 23Cn 4Lo 49Cn 4Cs 2048Co 6400Lo 366Cn 2Lo 106Cn 38Ll
  7Cn 12Ll 5Cn 5Lo 1Mn 1Lo 10Sm 1Lo 13Cn 1Lo 5Cn 1Lo 1Cn 1Lo 2Cn 1Lo 2Cn 1Lo 108Sk 17Cn 16Lo
  363Pe 1Ps 1So 16Lo 64Cn 2Lo 54Cn 7So 1Cn 32Lo 12Sc 1So 3Mn 16Po 7Ps 1Pe 1Po 1Cn 6Mn 16Po 1Pd
  2Pc 2Ps 1Pe 1Ps 1Pe 1Ps 1Pe 1Ps 1Pe 1Ps 1Pe 1Ps 1Pe 1Ps 1Pe 1Ps 1Pe 1Po 2Ps 1Pe 1Po 4Pc 3Po
  3Cn 1Po 4Pd 1Ps 1Pe 1Ps 1Pe 1Ps 1Pe 1Po 3Sm 1Pd 1Sm 3Cn 1Po 1Sc 1Po 2Cn 4Lo 5Cn 1Lo 135Cn 2Cf
  1Cn 1Po 3Sc 1Po 3Ps 1Pe 1Po 1Sm 1Po 1Pd 1Po 2Nd 10Po 2Sm 3Po 2Lu 26Ps 1Po 1Pe 1Sk 1Pc 1Sk 1Ll
  26Ps 1Sm 1Pe 1Sm 1Ps 1Pe 1Po 1Ps 1Pe 1Po 2Lo 10Lm 1Lo 45Lm 2Lo 31Cn 3Lo 6Cn 2Lo 6Cn 2Lo 6Cn
  2Lo 3Cn 3Sc 2Sm 1Sk 1So 1Sc 2Cn 1So 1Sm 4So 2Cn 10Cf 3So 2Cn 2Lo 12Cn 1Lo 26Cn 1Lo 19Cn 1Lo
  2Cn 1Lo 15Cn 2Lo 14Cn 34Lo 123Cn 5Po 3Cn 4No 45Cn 3So 9Nl 53No 4So 17No 2So 3Cn 1So 13Cn 3So
  1Cn 47So 45Mn 1Cn 130Lo 29Cn 3Lo 49Cn 15Mn 1No 27Cn 4Lo 32No 4Cn 9Lo 20Nl 1Lo 8Nl 1Cn 5Lo 38Mn
  5Cn 5Lo 30Cn 1Po 1Lo 36Cn 4Lo 8Po 1Nl 5Cn 42Lu 40Ll 40Lo 78Cn 2Nd 10Cn 6Lu 36Cn 4Ll 36Cn 4Lo
  40Cn 8Lo 52Cn 11Po 1Lu 11Cn 1Lu 15Cn 1Lu 7Cn 1Lu 2Cn 1Ll 11Cn 1Ll 15Cn 1Ll 7Cn 1Ll 2Cn 3Lo
  52Cn 12Lo 311Cn 9Lo 22Cn 10Lo 8Cn 24Lm 6Cn 1Lm 42Cn 1Lm 9Cn 69Lo 6Cn 2Lo 1Cn 1Lo 44Cn 1Lo 2Cn
  3Lo 1Cn 2Lo 23Cn 1Po 1No 8Lo 23So 2No 7Lo 31Cn 8No 9Cn 48Lo 19Cn 1Lo 2Cn 5No 5Lo 22No 6Cn 3Po
  1Lo 26Cn 5Po 1Cn 64Lo 56Cn 4No 2Lo 2No 16Cn 2No 46Lo 1Mn 3Cn 1Mn 2Cn 5Mn 4Lo 4Cn 1Lo 3Cn 1Lo
  29Cn 2Mn 3Cn 4Mn 1No 9Cn 7Po 9Cn 7Lo 29No 2Po 1Lo 29No 3Cn 32Lo 8So 1Lo 28Mn 2Cn 4No 5Po 7Cn
  9Lo 54Cn 3Po 7Lo 22Cn 2No 8Lo 19Cn 5No 8Lo 18Cn 7Po 4Cn 12No 7Cn 80Lo 73Cn 55Lu 51Cn 13Ll 51Cn
  7No 6Lo 36Mn 4Cn 8Nd 10Cn 6Nd 10Lo 4Lm 1Lo 1Lu 22Cn 3Mn 5Pd 1Lm 1Ll 22Cn 8Sm 2Cn 208No 31Cn
  1Lo 42Cn 1Mn 2Pd 1Cn 2Lo 2Cn 16Lo 3Cn 55Mn 4Lo 29No 10Lo 1Cn 8Lo 22Mn 11No 4Po 5Cn 22Lo 18Mn
  4Po 4Cn 38Lo 21No 7Cn 20Lo 23Cn 9Mc 1Mn 1Mc 1Lo 53Mn 15Po 7Cn 4No 20Nd 10Mn 1Lo 2Mn 2Lo 1Cn
  9Mn 3Mc 1Lo 45Mc 3Mn 4Mc 2Mn 2Po 2Cf 1Po 4Mn 1Cn 10Cf 1Cn 2Lo 25Cn 7Nd 10Cn 6Mn 3Lo 36Mn 5Mc
  1Mn 8Cn 1Nd 10Po 4Lo 1Mc 2Lo 1Cn 8Lo 35Mn 1Po 2Lo 1Cn 9Mn 2Mc 1Lo 48Mc 3Mn 9Mc 2Lo 4Po 4Mn 4Po
  1Mc 1Mn 1Nd 10Lo 1Po 1Lo 1Po 3Cn 1No 20Cn 11Lo 18Cn 1Lo 25Mc 3Mn 3Mc 2Mn 1Mc 1Mn 2Po 6Mn 1Lo
  2Mn 1Cn 62Lo 7Cn 1Lo 1Cn 1Lo 4Cn 1Lo 15Cn 1Lo 10Po 1Cn 6Lo 47Mn 1Mc 3Mn 8Cn 5Nd 10Cn 6Mn 2Mc
  2Cn 1Lo 8Cn 2Lo 2Cn 2Lo 22Cn 1Lo 7Cn 1Lo 2Cn 1Lo 5Cn 1Mn 2Lo 1Mc 2Mn 1Mc 4Cn 2Mc 2Cn 2Mc 3Cn
  2Lo 1Cn 6Mc 1Cn 5Lo 5Mc 2Cn 2Mn 7Cn 3Mn 5Cn 11Lo 10Cn 1Lo 1Cn 2Lo 1Cn 1Lo 38Cn 1Lo 1Mc 3Mn 6Cn
  1Mc 1Cn 2Mc 1Cn 1Mc 4Cn 1Mc 2Mn 1Mc 1Mn 1Lo 1Mn 1Lo 1Po 2Cn 1Po 2Cn 8Mn 2Cn 29Lo 53Mc 3Mn 8Mc
  2Mn 3Mc 1Mn 1Lo 4Po 5Nd 10Po 2Cn 1Po 1Mn 1Lo 3Cn 30Lo 48Mc 3Mn 6Mc 1Mn 1Mc 4Mn 2Mc 1Mn 2Lo 2Po
  1Lo 1Cn 8Nd 10Cn 166Lo 47Mc 3Mn 4Cn 2Mc 4Mn 2Mc 1Mn 2Po 23Lo 4Mn 2Cn 34Lo 48Mc 3Mn 8Mc 2Mn 1Mc
  1Mn 2Po 3Lo 1Cn 11Nd 10Cn 6Po 13Cn 19Lo 43Mn 1Mc 1Mn 1Mc 2Mn 6Mc 1Mn 1Lo 1Po 1Cn 6Nd 10Cn 6Nd
  20Cn 28Lo 27Cn 2Mn 3Mc 2Mn 4Mc 1Mn 5Cn 4Nd 10No 2Po 3So 1Lo 7Cn 185Lo 44Mc 3Mn 9Mc 1Mn 2Po 1Cn
  100Lu 32Ll 32Nd 10No 9Cn 12Lo 8Cn 2Lo 1Cn 2Lo 8Cn 1Lo 2Cn 1Lo 24Mc 6Cn 1Mc 2Cn 2Mn 2Mc 1Mn 1Lo
  1Mc 1Lo 1Mc 1Mn 1Po 3Cn 9Nd 10Cn 70Lo 8Cn 2Lo 39Mc 3Mn 4Cn 2Mn 2Mc 4Mn 1Lo 1Po 1Lo 1Mc 1Cn
  27Lo 1Mn 10Lo 40Mn 6Mc 1Lo 1Mn 4Po 8Mn 1Cn 8Lo 1Mn 6Mc 2Mn 3Lo 46Mn 13Mc 1Mn 2Po 3Lo 1Po 5Cn
  13Lo 73Cn 7Po 10Cn 182Lo 33Po 1Cn 14Nd 10Cn 6Lo 9Cn 1Lo 37Mc 1Mn 7Cn 1Mn 6Mc 1Mn 1Lo 1Po 5Cn
  10Nd 10No 19Cn 3Po 2Lo 30Cn 2Mn 22Cn 1Mc 1Mn 7Mc 1Mn 2Mc 1Mn 2Cn 73Lo 7Cn 1Lo 2Cn 1Lo 38Mn 6Cn
  3Mn 1Cn 1Mn 2Cn 1Mn 7Lo 1Mn 1Cn 8Nd 10Cn 6Lo 6Cn 1Lo 2Cn 1Lo 32Mc 5Cn 1Mn 2Cn 1Mc 2Mn 1Mc 1Mn
  1Lo 1Cn 7Nd 10Cn 310Lo 19Mn 2Mc 2Po 2Cn 7Mn 2Lo 1Mc 1Lo 13Cn 1Lo 34Mc 2Mn 5Cn 3Mc 2Mn 1Mc 1Mn
  1Po 13Nd 10Mn 1Cn 85Lo 1Cn 15No 21So 8Sc 4So 17Cn 13Po 1Lo 922Cn 102Nl 111Cn 1Po 5Cn 11Lo
  196Cn 2636Lo 97Po 2Cn 13Lo 1072Cf 16Mn 1Lo 6Mn 15Cn 10Lo 3995Cn 5Lo 583Cn 6841Lo 30Mn 12Mc 3Mn
  3Nd 10Cn 1734Lo 569Cn 7Lo 31Cn 1Nd 10Cn 4Po 2Lo 79Cn 1Nd 10Cn 6Lo 30Cn 2Mn 5Po 1Cn 10Lo 48Mn
  7Po 5So 4Lm 4Po 1So 1Cn 10Nd 10Cn 1No 7Cn 1Lo 21Cn 5Lo 19Cn 432Lm 3Lo 40Lm 2Po 3Nd 10Cn 198Lu
  32Ll 32No 23Po 4Cn 101Lo 75Cn 4Mn 1Lo 1Mc 55Cn 7Mn 4Lm 13Cn 64Lm 2Po 1Lm 1Mn 1Cn 11Mc 2Cn 14Lo
  6136Cn 8Lo 1238Cn 41Lo 10Cn 8935Lm 4Cn 1Lm 7Cn 1Lm 2Cn 1Lo 291Cn 15Lo 1Cn 29Lo 3Cn 2Lo 1Cn
  14Lo 4Cn 8Lo 396Cn 2308Lo 107Cn 5Lo 13Cn 3Lo 9Cn 7Lo 10Cn 2So 1Mn 2Po 1Cf 4Cn 3932So 240Nd
  10Cn 6So 436Cn 76Mn 46Cn 2Mn 23Cn 9So 116Cn 60So 246Cn 10So 39Cn 2So 60Mc 2Mn 3So 3Mc 6Cf 8Mn
  8So 2Mn 7So 30Mn 4So 61Cn 21So 66Mn 3So 1Cn 122No 20Cn 12No 20Cn 12So 87Cn 9No 25Cn 135Lu 26Ll
  26Lu 26Ll 7Cn 1Ll 18Lu 26Ll 26Lu 1Cn 1Lu 2Cn 2Lu 1Cn 2Lu 2Cn 2Lu 4Cn 1Lu 8Ll 4Cn 1Ll 1Cn 1Ll
  7Cn 1Ll 11Lu 26Ll 26Lu 2Cn 1Lu 4Cn 2Lu 8Cn 1Lu 7Cn 1Ll 26Lu 2Cn 1Lu 4Cn 1Lu 5Cn 1Lu 1Cn 3Lu
  7Cn 1Ll 26Lu 26Ll 26Lu 26Ll 26Lu 26Ll 26Lu 26Ll 26Lu 26Ll 26Lu 26Ll 28Cn 2Lu 25Sm 1Ll 25Sm 1Ll
  6Lu 25Sm 1Ll 25Sm 1Ll 6Lu 25Sm 1Ll 25Sm 1Ll 6Lu 25Sm 1Ll 25Sm 1Ll 6Lu 25Sm 1Ll 25Sm 1Ll 6Lu
  1Ll 1Cn 2Nd 50So 512Mn 55So 4Mn 50So 8Mn 1So 14Mn 1So 2Po 5Cn 15Mn 5Cn 1Mn 15Cn 1104Ll 10Lo
  1Ll 20Cn 6Ll 6Cn 213Mn 7Cn 1Mn 17Cn 2Mn 7Cn 1Mn 2Cn 1Mn 5Cn 5Lm 62Cn 33Mn 1Cn 112Lo 45Cn 3Mn
  7Lm 7Cn 2Nd 10Cn 4Lo 1So 1Cn 320Lo 30Mn 1Cn 17Lo 44Mn 4Nd 10Cn 5Sc 1Cn 464Lo 27Lm 1Mn 4Nd 10Cn
  214Lo 30Mn 2Lo 1Nd 10Cn 4Po 1Cn 480Lo 7Cn 1Lo 4Cn 1Lo 2Cn 1Lo 15Cn 1Lo 197Cn 2No 9Mn 7Cn 41Lu
  34Ll 34Mn 7Lm 1Cn 4Nd 10Cn 4Po 2Cn 785No 59So 1No 3Sc 1No 4Cn 76No 45So 1No 15Cn 194Lo 4Cn 1Lo
  27Cn 1Lo 2Cn 1Lo 1Cn 2Lo 1Cn 1Lo 10Cn 1Lo 4Cn 1Lo 1Cn 1Lo 1Cn 6Lo 1Cn 4Lo 1Cn 1Lo 1Cn 1Lo 1Cn
  1Lo 3Cn 1Lo 2Cn 1Lo 1Cn 2Lo 1Cn 1Lo 1Cn 1Lo 1Cn 1Lo 1Cn 1Lo 1Cn 1Lo 2Cn 1Lo 1Cn 2Lo 4Cn 1Lo
  7Cn 1Lo 4Cn 1Lo 4Cn 1Lo 1Cn 1Lo 10Cn 1Lo 17Cn 5Lo 3Cn 1Lo 5Cn 1Lo 17Cn 52Sm 2Cn 270So 44Cn 4So
  100Cn 12So 15Cn 2So 15Cn 1So 15Cn 1So 37Cn 10No 13So 161Cn 56So 29Cn 13So 44Cn 4So 9Cn 7So 2Cn
  14So 6Cn 154So 251Sk 5So 728Cn 4So 17Cn 3So 13Cn 3So 119Cn 4So 95Cn 6So 12Cn 4So 1Cn 15So 12Cn
  4So 56Cn 8So 10Cn 6So 40Cn 8So 30Cn 2So 12Cn 4So 2Cn 62So 340Cn 12So 14Cn 2So 13Cn 3So 10Cn
  5So 56Cn 7So 15Cn 2So 11Cn 6So 9Cn 7So 147Cn 1So 92Nd 10Cn 1030Lo 42720Cn 32Lo 4154Cn 6Lo
  222Cn 2Lo 5762Cn 14Lo 7473Cn 15Lo 622Cn 2466Lo 542Cn 1506Lo 4939Cn 5Lo 4192Cn 711761Cf 1Cn
  30Cf 96Cn 128Mn 240Cn 65040Co 65534Cn 2Co 65534Cn"

/-- The runs of one general category, in order. -/
def runs : List Run := Run.parse table

/-- The characters whose general category is in a list. -/
def set (categories : List String) : CharSet := Run.select (categories.contains ·) runs

/-- The names of a category or of a group of categories, and the categories it stands for.  Surrogate
code points are no characters, so their category has no name. -/
def names : List (List String × List String) := [
  (["c", "other"], ["Cc", "Cf", "Cn", "Co"]),
  (["cc", "control", "cntrl"], ["Cc"]),
  (["cf", "format"], ["Cf"]),
  (["cn", "unassigned"], ["Cn"]),
  (["co", "privateuse"], ["Co"]),
  (["l", "letter"], ["Ll", "Lm", "Lo", "Lt", "Lu"]),
  (["lc", "casedletter"], ["Ll", "Lt", "Lu"]),
  (["ll", "lowercaseletter"], ["Ll"]),
  (["lm", "modifierletter"], ["Lm"]),
  (["lo", "otherletter"], ["Lo"]),
  (["lt", "titlecaseletter"], ["Lt"]),
  (["lu", "uppercaseletter"], ["Lu"]),
  (["m", "mark", "combiningmark"], ["Mc", "Me", "Mn"]),
  (["mc", "spacingmark"], ["Mc"]),
  (["me", "enclosingmark"], ["Me"]),
  (["mn", "nonspacingmark"], ["Mn"]),
  (["n", "number"], ["Nd", "Nl", "No"]),
  (["nd", "decimalnumber", "digit"], ["Nd"]),
  (["nl", "letternumber"], ["Nl"]),
  (["no", "othernumber"], ["No"]),
  (["p", "punctuation", "punct"], ["Pc", "Pd", "Pe", "Pf", "Pi", "Po", "Ps"]),
  (["pc", "connectorpunctuation"], ["Pc"]),
  (["pd", "dashpunctuation"], ["Pd"]),
  (["pe", "closepunctuation"], ["Pe"]),
  (["pf", "finalpunctuation"], ["Pf"]),
  (["pi", "initialpunctuation"], ["Pi"]),
  (["po", "otherpunctuation"], ["Po"]),
  (["ps", "openpunctuation"], ["Ps"]),
  (["s", "symbol"], ["Sc", "Sk", "Sm", "So"]),
  (["sc", "currencysymbol"], ["Sc"]),
  (["sk", "modifiersymbol"], ["Sk"]),
  (["sm", "mathsymbol"], ["Sm"]),
  (["so", "othersymbol"], ["So"]),
  (["z", "separator"], ["Zl", "Zp", "Zs"]),
  (["zl", "lineseparator"], ["Zl"]),
  (["zp", "paragraphseparator"], ["Zp"]),
  (["zs", "spaceseparator"], ["Zs"])]

/-- The categories that a loosely written name stands for. -/
def members (name : String) : Option (List String) :=
  (names.find? fun entry => entry.1.contains name).map (·.2)

end Descent.Unicode.Category
