/-
  The script of every code point (Unicode 16.0).

  `runs` cuts the code points into runs of one four-letter script code, and `code?` reads a loosely
  written script name.
-/
import Descent.Unicode.Run

namespace Descent.Unicode.Script

/-- Runs of one script, as distances between their starts. -/
def table : String :=
  "0Zyyy 65Latn 26Zyyy 6Latn 26Zyyy 47Latn 1Zyyy 15Latn 1Zyyy 5Latn 23Zyyy 1Latn 31Zyyy 1Latn
  449Zyyy 39Latn 5Zyyy 5Bopo 2Zyyy 20Zinh 112Grek 4Zyyy 1Grek 3Zzzz 2Grek 4Zyyy 1Grek 1Zzzz
  4Grek 1Zyyy 1Grek 1Zyyy 1Grek 3Zzzz 1Grek 1Zzzz 1Grek 20Zzzz 1Grek 63Copt 14Grek 16Cyrl
  133Zinh 2Cyrl 169Zzzz 1Armn 38Zzzz 2Armn 50Zzzz 2Armn 3Zzzz 1Hebr 55Zzzz 8Hebr 27Zzzz 4Hebr
  6Zzzz 11Arab 5Zyyy 1Arab 6Zyyy 1Arab 14Zyyy 1Arab 3Zyyy 1Arab 32Zyyy 1Arab 10Zinh 11Arab
  26Zinh 1Arab 108Zyyy 1Arab 34Syrc 14Zzzz 1Syrc 60Zzzz 2Syrc 3Arab 48Thaa 50Zzzz 14Nkoo 59Zzzz
  2Nkoo 3Samr 46Zzzz 2Samr 15Zzzz 1Mand 28Zzzz 2Mand 1Zzzz 1Syrc 11Zzzz 5Arab 31Zzzz 1Arab 2Zzzz
  5Arab 75Zyyy 1Arab 29Deva 81Zinh 4Deva 15Zyyy 2Deva 26Beng 4Zzzz 1Beng 8Zzzz 2Beng 2Zzzz 2Beng
  22Zzzz 1Beng 7Zzzz 1Beng 1Zzzz 3Beng 4Zzzz 2Beng 9Zzzz 2Beng 2Zzzz 2Beng 4Zzzz 8Beng 1Zzzz
  4Beng 2Zzzz 1Beng 5Zzzz 2Beng 25Zzzz 2Guru 3Zzzz 1Guru 6Zzzz 4Guru 2Zzzz 2Guru 22Zzzz 1Guru
  7Zzzz 1Guru 2Zzzz 1Guru 2Zzzz 1Guru 2Zzzz 2Guru 1Zzzz 1Guru 5Zzzz 4Guru 2Zzzz 2Guru 3Zzzz
  3Guru 1Zzzz 7Guru 4Zzzz 1Guru 1Zzzz 7Guru 17Zzzz 10Gujr 3Zzzz 1Gujr 9Zzzz 1Gujr 3Zzzz 1Gujr
  22Zzzz 1Gujr 7Zzzz 1Gujr 2Zzzz 1Gujr 5Zzzz 2Gujr 10Zzzz 1Gujr 3Zzzz 1Gujr 3Zzzz 2Gujr 1Zzzz
  15Gujr 4Zzzz 2Gujr 12Zzzz 7Gujr 7Zzzz 1Orya 3Zzzz 1Orya 8Zzzz 2Orya 2Zzzz 2Orya 22Zzzz 1Orya
  7Zzzz 1Orya 2Zzzz 1Orya 5Zzzz 2Orya 9Zzzz 2Orya 2Zzzz 2Orya 3Zzzz 7Orya 3Zzzz 4Orya 2Zzzz
  1Orya 5Zzzz 2Orya 18Zzzz 10Taml 2Zzzz 1Taml 6Zzzz 3Taml 3Zzzz 1Taml 4Zzzz 3Taml 2Zzzz 1Taml
  1Zzzz 1Taml 2Zzzz 3Taml 2Zzzz 3Taml 3Zzzz 3Taml 12Zzzz 4Taml 5Zzzz 3Taml 3Zzzz 1Taml 4Zzzz
  2Taml 1Zzzz 6Taml 1Zzzz 14Taml 21Zzzz 5Telu 13Zzzz 1Telu 3Zzzz 1Telu 23Zzzz 1Telu 16Zzzz 2Telu
  9Zzzz 1Telu 3Zzzz 1Telu 4Zzzz 7Telu 2Zzzz 1Telu 3Zzzz 2Telu 1Zzzz 2Telu 4Zzzz 2Telu 10Zzzz
  7Telu 9Knda 13Zzzz 1Knda 3Zzzz 1Knda 23Zzzz 1Knda 10Zzzz 1Knda 5Zzzz 2Knda 9Zzzz 1Knda 3Zzzz
  1Knda 4Zzzz 7Knda 2Zzzz 6Knda 2Zzzz 1Knda 4Zzzz 2Knda 10Zzzz 1Knda 3Zzzz 12Mlym 13Zzzz 1Mlym
  3Zzzz 1Mlym 51Zzzz 1Mlym 3Zzzz 1Mlym 6Zzzz 4Mlym 16Zzzz 2Mlym 26Zzzz 1Sinh 3Zzzz 1Sinh 18Zzzz
  3Sinh 24Zzzz 1Sinh 9Zzzz 1Sinh 1Zzzz 2Sinh 7Zzzz 3Sinh 1Zzzz 4Sinh 6Zzzz 1Sinh 1Zzzz 1Sinh
  8Zzzz 6Sinh 10Zzzz 2Sinh 3Zzzz 12Thai 58Zzzz 4Zyyy 1Thai 28Zzzz 37Laoo 2Zzzz 1Laoo 1Zzzz 1Laoo
  5Zzzz 1Laoo 24Zzzz 1Laoo 1Zzzz 1Laoo 23Zzzz 2Laoo 5Zzzz 1Laoo 1Zzzz 1Laoo 7Zzzz 1Laoo 10Zzzz
  2Laoo 4Zzzz 32Tibt 72Zzzz 1Tibt 36Zzzz 4Tibt 39Zzzz 1Tibt 36Zzzz 1Tibt 15Zzzz 1Tibt 7Zyyy
  4Tibt 2Zzzz 37Mymr 160Geor 38Zzzz 1Geor 1Zzzz 5Geor 1Zzzz 2Geor 43Zyyy 1Geor 4Hang 256Ethi
  73Zzzz 1Ethi 4Zzzz 2Ethi 7Zzzz 1Ethi 1Zzzz 1Ethi 4Zzzz 2Ethi 41Zzzz 1Ethi 4Zzzz 2Ethi 33Zzzz
  1Ethi 4Zzzz 2Ethi 7Zzzz 1Ethi 1Zzzz 1Ethi 4Zzzz 2Ethi 15Zzzz 1Ethi 57Zzzz 1Ethi 4Zzzz 2Ethi
  67Zzzz 2Ethi 32Zzzz 3Ethi 26Zzzz 6Cher 86Zzzz 2Cher 6Zzzz 2Cans 640Ogam 29Zzzz 3Runr 75Zyyy
  3Runr 11Zzzz 7Tglg 22Zzzz 9Tglg 1Hano 21Zyyy 2Zzzz 9Buhd 20Zzzz 12Tagb 13Zzzz 1Tagb 3Zzzz
  1Tagb 2Zzzz 12Khmr 94Zzzz 2Khmr 10Zzzz 6Khmr 10Zzzz 6Mong 2Zyyy 2Mong 1Zyyy 1Mong 20Zzzz 6Mong
  89Zzzz 7Mong 43Zzzz 5Cans 70Zzzz 10Limb 31Zzzz 1Limb 12Zzzz 4Limb 12Zzzz 4Limb 1Zzzz 3Limb
  12Tale 30Zzzz 2Tale 5Zzzz 11Talu 44Zzzz 4Talu 26Zzzz 6Talu 11Zzzz 3Talu 2Khmr 32Bugi 28Zzzz
  2Bugi 2Lana 63Zzzz 1Lana 29Zzzz 2Lana 11Zzzz 6Lana 10Zzzz 6Lana 14Zzzz 2Zinh 31Zzzz 49Bali
  77Zzzz 1Bali 50Sund 64Batk 52Zzzz 8Batk 4Lepc 56Zzzz 3Lepc 15Zzzz 3Lepc 3Olck 48Cyrl 11Zzzz
  5Geor 43Zzzz 2Geor 3Sund 8Zzzz 8Zinh 3Zyyy 1Zinh 13Zyyy 1Zinh 7Zyyy 4Zinh 1Zyyy 6Zinh 1Zyyy
  3Zinh 2Zyyy 1Zzzz 5Latn 38Grek 5Cyrl 1Latn 49Grek 5Latn 4Grek 5Latn 13Cyrl 1Latn 70Grek 1Zinh
  64Latn 256Grek 22Zzzz 2Grek 6Zzzz 2Grek 38Zzzz 2Grek 6Zzzz 2Grek 8Zzzz 1Grek 1Zzzz 1Grek 1Zzzz
  1Grek 1Zzzz 1Grek 31Zzzz 2Grek 53Zzzz 1Grek 15Zzzz 1Grek 14Zzzz 2Grek 6Zzzz 1Grek 19Zzzz 2Grek
  3Zzzz 1Grek 9Zzzz 1Zyyy 12Zinh 2Zyyy 87Zzzz 1Zyyy 11Latn 1Zzzz 2Zyyy 11Latn 1Zyyy 15Zzzz 1Latn
  13Zzzz 3Zyyy 33Zzzz 15Zinh 33Zzzz 15Zyyy 38Grek 1Zyyy 3Latn 2Zyyy 6Latn 1Zyyy 27Latn 1Zyyy
  17Latn 41Zyyy 3Zzzz 4Zyyy 666Zzzz 22Zyyy 11Zzzz 21Zyyy 928Brai 256Zyyy 628Zzzz 2Zyyy 32Zzzz
  1Zyyy 105Glag 96Latn 32Copt 116Zzzz 5Copt 7Geor 38Zzzz 1Geor 1Zzzz 5Geor 1Zzzz 2Tfng 56Zzzz
  7Tfng 2Zzzz 14Tfng 1Ethi 23Zzzz 9Ethi 7Zzzz 1Ethi 7Zzzz 1Ethi 7Zzzz 1Ethi 7Zzzz 1Ethi 7Zzzz
  1Ethi 7Zzzz 1Ethi 7Zzzz 1Ethi 7Zzzz 1Cyrl 32Zyyy 94Zzzz 34Hani 26Zzzz 1Hani 89Zzzz 12Hani
  214Zzzz 26Zyyy 21Hani 1Zyyy 1Hani 1Zyyy 25Hani 9Zinh 4Hang 2Zyyy 8Hani 4Zyyy 4Zzzz 1Hira
  86Zzzz 2Zinh 2Zyyy 2Hira 3Zyyy 1Kana 90Zyyy 2Kana 3Zzzz 5Bopo 43Zzzz 1Hang 94Zzzz 1Zyyy 16Bopo
  32Zyyy 38Zzzz 9Zyyy 1Kana 16Hang 31Zzzz 1Zyyy 64Hang 31Zyyy 81Kana 47Zyyy 1Kana 88Zyyy 168Hani
  6592Zyyy 64Hani 20992Yiii 1165Zzzz 3Yiii 55Zzzz 9Lisu 48Vaii 300Zzzz 20Cyrl 96Bamu 88Zzzz
  8Zyyy 34Latn 102Zyyy 3Latn 67Zzzz 2Latn 2Zzzz 1Latn 1Zzzz 1Latn 8Zzzz 21Latn 14Sylo 45Zzzz
  3Zyyy 10Zzzz 6Phag 56Zzzz 8Saur 70Zzzz 8Saur 12Zzzz 6Deva 32Kali 46Zyyy 1Kali 1Rjng 36Zzzz
  11Rjng 1Hang 29Zzzz 3Java 78Zzzz 1Zyyy 1Java 10Zzzz 4Java 2Mymr 31Zzzz 1Cham 55Zzzz 9Cham
  14Zzzz 2Cham 10Zzzz 2Cham 4Mymr 32Tavt 67Zzzz 24Tavt 5Mtei 23Zzzz 10Ethi 6Zzzz 2Ethi 6Zzzz
  2Ethi 6Zzzz 9Ethi 7Zzzz 1Ethi 7Zzzz 1Latn 43Zyyy 1Latn 9Grek 1Latn 4Zyyy 2Zzzz 4Cher 80Mtei
  46Zzzz 2Mtei 10Zzzz 6Hang 11172Zzzz 12Hang 23Zzzz 4Hang 49Zzzz 8452Hani 366Zzzz 2Hani 106Zzzz
  38Latn 7Zzzz 12Armn 5Zzzz 5Hebr 26Zzzz 1Hebr 5Zzzz 1Hebr 1Zzzz 1Hebr 2Zzzz 1Hebr 2Zzzz 1Hebr
  10Arab 115Zzzz 16Arab 363Zyyy 2Arab 80Zzzz 2Arab 54Zzzz 7Arab 1Zzzz 32Arab 16Zinh 16Zyyy
  10Zzzz 6Zinh 14Cyrl 2Zyyy 35Zzzz 1Zyyy 19Zzzz 1Zyyy 4Zzzz 4Arab 5Zzzz 1Arab 135Zzzz 2Zyyy
  1Zzzz 1Zyyy 32Latn 26Zyyy 6Latn 26Zyyy 11Kana 10Zyyy 1Kana 45Zyyy 2Hang 31Zzzz 3Hang 6Zzzz
  2Hang 6Zzzz 2Hang 6Zzzz 2Hang 3Zzzz 3Zyyy 7Zzzz 1Zyyy 7Zzzz 10Zyyy 5Zzzz 2Linb 12Zzzz 1Linb
  26Zzzz 1Linb 19Zzzz 1Linb 2Zzzz 1Linb 15Zzzz 2Linb 14Zzzz 34Linb 123Zzzz 5Zyyy 3Zzzz 4Zyyy
  45Zzzz 3Zyyy 9Grek 79Zzzz 1Zyyy 13Zzzz 3Grek 1Zzzz 47Zyyy 45Zinh 1Zzzz 130Lyci 29Zzzz 3Cari
  49Zzzz 15Zinh 1Zyyy 27Zzzz 4Ital 36Zzzz 9Ital 3Goth 27Zzzz 5Perm 43Zzzz 5Ugar 30Zzzz 1Ugar
  1Xpeo 36Zzzz 4Xpeo 14Zzzz 42Dsrt 80Shaw 48Osma 30Zzzz 2Osma 10Zzzz 6Osge 36Zzzz 4Osge 36Zzzz
  4Elba 40Zzzz 8Aghb 52Zzzz 11Aghb 1Vith 11Zzzz 1Vith 15Zzzz 1Vith 7Zzzz 1Vith 2Zzzz 1Vith
  11Zzzz 1Vith 15Zzzz 1Vith 7Zzzz 1Vith 2Zzzz 3Todr 52Zzzz 12Lina 311Zzzz 9Lina 22Zzzz 10Lina
  8Zzzz 24Latn 6Zzzz 1Latn 42Zzzz 1Latn 9Zzzz 69Cprt 6Zzzz 2Cprt 1Zzzz 1Cprt 44Zzzz 1Cprt 2Zzzz
  3Cprt 1Zzzz 2Cprt 1Armi 22Zzzz 1Armi 9Palm 32Nbat 31Zzzz 8Nbat 9Zzzz 48Hatr 19Zzzz 1Hatr 2Zzzz
  5Hatr 5Phnx 28Zzzz 3Phnx 1Lydi 26Zzzz 5Lydi 1Zzzz 64Mero 32Merc 24Zzzz 4Merc 20Zzzz 2Merc
  46Khar 4Zzzz 1Khar 2Zzzz 5Khar 8Zzzz 1Khar 3Zzzz 1Khar 29Zzzz 2Khar 3Zzzz 4Khar 10Zzzz 7Khar
  9Zzzz 7Sarb 32Narb 32Zzzz 32Mani 39Zzzz 4Mani 12Zzzz 9Avst 54Zzzz 3Avst 7Prti 22Zzzz 2Prti
  8Phli 19Zzzz 5Phli 8Phlp 18Zzzz 7Phlp 4Zzzz 12Phlp 7Zzzz 80Orkh 73Zzzz 55Hung 51Zzzz 13Hung
  51Zzzz 7Hung 6Rohg 40Zzzz 8Rohg 10Zzzz 6Gara 38Zzzz 3Gara 29Zzzz 8Gara 2Zzzz 208Arab 31Zzzz
  1Yezi 42Zzzz 1Yezi 3Zzzz 2Yezi 2Zzzz 16Arab 3Zzzz 55Arab 4Sogo 40Zzzz 8Sogd 42Zzzz 22Ougr
  26Zzzz 38Chrs 28Zzzz 20Elym 23Zzzz 9Brah 78Zzzz 4Brah 36Zzzz 9Brah 1Kthi 67Zzzz 10Kthi 1Zzzz
  2Sora 25Zzzz 7Sora 10Zzzz 6Cakm 53Zzzz 1Cakm 18Zzzz 8Mahj 39Zzzz 9Shrd 96Zzzz 1Sinh 20Zzzz
  11Khoj 18Zzzz 1Khoj 47Zzzz 62Mult 7Zzzz 1Mult 1Zzzz 1Mult 4Zzzz 1Mult 15Zzzz 1Mult 11Zzzz
  6Sind 59Zzzz 5Sind 10Zzzz 6Gran 4Zzzz 1Gran 8Zzzz 2Gran 2Zzzz 2Gran 22Zzzz 1Gran 7Zzzz 1Gran
  2Zzzz 1Gran 5Zzzz 1Zinh 1Gran 9Zzzz 2Gran 2Zzzz 2Gran 3Zzzz 2Gran 1Zzzz 6Gran 1Zzzz 5Gran
  7Zzzz 2Gran 7Zzzz 3Gran 5Zzzz 11Tutg 10Zzzz 1Tutg 1Zzzz 2Tutg 1Zzzz 1Tutg 38Zzzz 1Tutg 10Zzzz
  1Tutg 1Zzzz 2Tutg 1Zzzz 1Tutg 4Zzzz 1Tutg 10Zzzz 1Tutg 2Zzzz 8Tutg 2Zzzz 29Newa 92Zzzz 1Newa
  5Zzzz 30Tirh 72Zzzz 8Tirh 10Zzzz 166Sidd 54Zzzz 2Sidd 38Zzzz 34Modi 69Zzzz 11Modi 10Zzzz 6Mong
  13Zzzz 19Takr 58Zzzz 6Takr 10Zzzz 6Mymr 20Zzzz 28Ahom 27Zzzz 2Ahom 15Zzzz 4Ahom 23Zzzz 185Dogr
  60Zzzz 100Wara 83Zzzz 12Wara 1Diak 7Zzzz 2Diak 1Zzzz 2Diak 8Zzzz 1Diak 2Zzzz 1Diak 30Zzzz
  1Diak 2Zzzz 2Diak 12Zzzz 9Diak 10Zzzz 70Nand 8Zzzz 2Nand 46Zzzz 2Nand 11Zzzz 27Zanb 72Zzzz
  8Soyo 83Zzzz 13Cans 16Pauc 57Zzzz 7Deva 10Zzzz 182Sunu 34Zzzz 14Sunu 10Zzzz 6Bhks 9Zzzz 1Bhks
  45Zzzz 1Bhks 14Zzzz 10Bhks 29Zzzz 3Marc 32Zzzz 2Marc 22Zzzz 1Marc 14Zzzz 73Gonm 7Zzzz 1Gonm
  2Zzzz 1Gonm 44Zzzz 3Gonm 1Zzzz 1Gonm 2Zzzz 1Gonm 9Zzzz 8Gonm 10Zzzz 6Gong 6Zzzz 1Gong 2Zzzz
  1Gong 37Zzzz 1Gong 2Zzzz 1Gong 6Zzzz 7Gong 10Zzzz 310Maka 25Zzzz 7Kawi 17Zzzz 1Kawi 41Zzzz
  3Kawi 29Zzzz 85Lisu 1Zzzz 15Taml 50Zzzz 13Taml 1Xsux 922Zzzz 102Xsux 111Zzzz 1Xsux 5Zzzz
  11Xsux 196Zzzz 2636Cpmn 99Zzzz 13Egyp 1110Zzzz 10Egyp 3995Zzzz 5Hluw 583Zzzz 6841Gukh 58Zzzz
  1734Bamu 569Zzzz 7Mroo 31Zzzz 1Mroo 10Zzzz 4Mroo 2Tnsa 79Zzzz 1Tnsa 10Zzzz 6Bass 30Zzzz 2Bass
  6Zzzz 10Hmng 70Zzzz 10Hmng 10Zzzz 1Hmng 7Zzzz 1Hmng 21Zzzz 5Hmng 19Zzzz 432Krai 58Zzzz 198Medf
  91Zzzz 101Plrd 75Zzzz 4Plrd 57Zzzz 7Plrd 17Zzzz 64Tang 1Nshu 1Hani 2Kits 1Zzzz 11Hani 2Zzzz
  14Tang 6136Zzzz 8Tang 768Kits 470Zzzz 41Kits 1Tang 9Zzzz 8935Kana 4Zzzz 1Kana 7Zzzz 1Kana
  2Zzzz 1Kana 1Hira 287Kana 3Zzzz 15Hira 1Zzzz 29Hira 3Zzzz 2Kana 1Zzzz 14Kana 4Zzzz 8Nshu
  396Zzzz 2308Dupl 107Zzzz 5Dupl 13Zzzz 3Dupl 9Zzzz 7Dupl 10Zzzz 2Dupl 4Zyyy 4Zzzz 3932Zyyy
  250Zzzz 6Zyyy 436Zzzz 76Zinh 46Zzzz 2Zinh 23Zzzz 9Zyyy 116Zzzz 60Zyyy 246Zzzz 10Zyyy 39Zzzz
  2Zyyy 62Zinh 3Zyyy 17Zinh 8Zyyy 2Zinh 7Zyyy 30Zinh 4Zyyy 61Zzzz 21Grek 70Zzzz 122Zyyy 20Zzzz
  12Zyyy 20Zzzz 12Zyyy 87Zzzz 9Zyyy 25Zzzz 135Zyyy 85Zzzz 1Zyyy 71Zzzz 1Zyyy 2Zzzz 2Zyyy 1Zzzz
  2Zyyy 2Zzzz 2Zyyy 4Zzzz 1Zyyy 12Zzzz 1Zyyy 1Zzzz 1Zyyy 7Zzzz 1Zyyy 65Zzzz 1Zyyy 4Zzzz 2Zyyy
  8Zzzz 1Zyyy 7Zzzz 1Zyyy 28Zzzz 1Zyyy 4Zzzz 1Zyyy 5Zzzz 1Zyyy 1Zzzz 3Zyyy 7Zzzz 1Zyyy 340Zzzz
  2Zyyy 292Zzzz 2Zyyy 50Sgnw 652Zzzz 15Sgnw 5Zzzz 1Sgnw 15Zzzz 1104Latn 31Zzzz 6Latn 6Zzzz
  213Glag 7Zzzz 1Glag 17Zzzz 2Glag 7Zzzz 1Glag 2Zzzz 1Glag 5Zzzz 5Cyrl 62Zzzz 33Cyrl 1Zzzz
  112Hmnp 45Zzzz 3Hmnp 14Zzzz 2Hmnp 10Zzzz 4Hmnp 2Zzzz 320Toto 31Zzzz 17Wcho 58Zzzz 5Wcho 1Zzzz
  464Nagm 42Zzzz 214Onao 43Zzzz 4Onao 1Zzzz 480Ethi 7Zzzz 1Ethi 4Zzzz 1Ethi 2Zzzz 1Ethi 15Zzzz
  1Mend 197Zzzz 2Mend 16Zzzz 41Adlm 76Zzzz 4Adlm 10Zzzz 4Adlm 2Zzzz 785Zyyy 68Zzzz 76Zyyy 61Zzzz
  194Arab 4Zzzz 1Arab 27Zzzz 1Arab 2Zzzz 1Arab 1Zzzz 2Arab 1Zzzz 1Arab 10Zzzz 1Arab 4Zzzz 1Arab
  1Zzzz 1Arab 1Zzzz 6Arab 1Zzzz 4Arab 1Zzzz 1Arab 1Zzzz 1Arab 1Zzzz 1Arab 3Zzzz 1Arab 2Zzzz
  1Arab 1Zzzz 2Arab 1Zzzz 1Arab 1Zzzz 1Arab 1Zzzz 1Arab 1Zzzz 1Arab 1Zzzz 1Arab 2Zzzz 1Arab
  1Zzzz 2Arab 4Zzzz 1Arab 7Zzzz 1Arab 4Zzzz 1Arab 4Zzzz 1Arab 1Zzzz 1Arab 10Zzzz 1Arab 17Zzzz
  5Arab 3Zzzz 1Arab 5Zzzz 1Arab 17Zzzz 52Arab 2Zzzz 270Zyyy 44Zzzz 4Zyyy 100Zzzz 12Zyyy 15Zzzz
  2Zyyy 15Zzzz 1Zyyy 15Zzzz 1Zyyy 37Zzzz 10Zyyy 174Zzzz 56Zyyy 26Hira 1Zyyy 2Zzzz 13Zyyy 44Zzzz
  4Zyyy 9Zzzz 7Zyyy 2Zzzz 14Zyyy 6Zzzz 154Zyyy 984Zzzz 4Zyyy 17Zzzz 3Zyyy 13Zzzz 3Zyyy 119Zzzz
  4Zyyy 95Zzzz 6Zyyy 12Zzzz 4Zyyy 1Zzzz 15Zyyy 12Zzzz 4Zyyy 56Zzzz 8Zyyy 10Zzzz 6Zyyy 40Zzzz
  8Zyyy 30Zzzz 2Zyyy 12Zzzz 4Zyyy 2Zzzz 62Zyyy 340Zzzz 12Zyyy 14Zzzz 2Zyyy 13Zzzz 3Zyyy 10Zzzz
  5Zyyy 56Zzzz 7Zyyy 15Zzzz 2Zyyy 11Zzzz 6Zyyy 9Zzzz 7Zyyy 147Zzzz 1Zyyy 102Zzzz 1030Hani
  42720Zzzz 32Hani 4154Zzzz 6Hani 222Zzzz 2Hani 5762Zzzz 14Hani 7473Zzzz 15Hani 622Zzzz 2466Hani
  542Zzzz 1506Hani 4939Zzzz 5Hani 4192Zzzz 711761Zyyy 1Zzzz 30Zyyy 96Zzzz 128Zinh 240Zzzz"

/-- The runs of one script, in order. -/
def runs : List Run := Run.parse table

/-- The characters of a script. -/
def set (code : String) : CharSet := Run.select (· == code) runs

/-- Script codes with their names. -/
def nameTable : String :=
  "Adlm:adlm=adlam Aghb:aghb=caucasianalbanian Ahom:ahom Arab:arab=arabic
  Armi:armi=imperialaramaic Armn:armn=armenian Avst:avst=avestan Bali:bali=balinese
  Bamu:bamu=bamum Bass:bass=bassavah Batk:batk=batak Beng:beng=bengali Bhks:bhks=bhaiksuki
  Bopo:bopo=bopomofo Brah:brah=brahmi Brai:brai=braille Bugi:bugi=buginese Buhd:buhd=buhid
  Cakm:cakm=chakma Cans:cans=canadianaboriginal Cari:cari=carian Cham:cham Cher:cher=cherokee
  Chrs:chrs=chorasmian Copt:copt=coptic=qaac Cpmn:cpmn=cyprominoan Cprt:cprt=cypriot
  Cyrl:cyrl=cyrillic Deva:deva=devanagari Diak:diak=divesakuru Dogr:dogr=dogra Dsrt:dsrt=deseret
  Dupl:dupl=duployan Egyp:egyp=egyptianhieroglyphs Elba:elba=elbasan Elym:elym=elymaic
  Ethi:ethi=ethiopic Gara:gara=garay Geor:geor=georgian Glag:glag=glagolitic
  Gong:gong=gunjalagondi Gonm:gonm=masaramgondi Goth:goth=gothic Gran:gran=grantha
  Grek:grek=greek Gujr:gujr=gujarati Gukh:gukh=gurungkhema Guru:guru=gurmukhi Hang:hang=hangul
  Hani:hani=han Hano:hano=hanunoo Hatr:hatr=hatran Hebr:hebr=hebrew Hira:hira=hiragana
  Hluw:hluw=anatolianhieroglyphs Hmng:hmng=pahawhhmong Hmnp:hmnp=nyiakengpuachuehmong
  Hung:hung=oldhungarian Ital:ital=olditalic Java:java=javanese Kali:kali=kayahli
  Kana:kana=katakana Kawi:kawi Khar:khar=kharoshthi Khmr:khmr=khmer Khoj:khoj=khojki
  Kits:kits=khitansmallscript Knda:knda=kannada Krai:krai=kiratrai Kthi:kthi=kaithi
  Lana:lana=taitham Laoo:laoo=lao Latn:latn=latin Lepc:lepc=lepcha Limb:limb=limbu
  Lina:lina=lineara Linb:linb=linearb Lisu:lisu Lyci:lyci=lycian Lydi:lydi=lydian
  Mahj:mahj=mahajani Maka:maka=makasar Mand:mand=mandaic Mani:mani=manichaean Marc:marc=marchen
  Medf:medf=medefaidrin Mend:mend=mendekikakui Merc:merc=meroiticcursive
  Mero:mero=meroitichieroglyphs Mlym:mlym=malayalam Modi:modi Mong:mong=mongolian Mroo:mroo=mro
  Mtei:mtei=meeteimayek Mult:mult=multani Mymr:mymr=myanmar Nagm:nagm=nagmundari
  Nand:nand=nandinagari Narb:narb=oldnortharabian Nbat:nbat=nabataean Newa:newa Nkoo:nkoo=nko
  Nshu:nshu=nushu Ogam:ogam=ogham Olck:olck=olchiki Onao:onao=olonal Orkh:orkh=oldturkic
  Orya:orya=oriya Osge:osge=osage Osma:osma=osmanya Ougr:ougr=olduyghur Palm:palm=palmyrene
  Pauc:pauc=paucinhau Perm:perm=oldpermic Phag:phag=phagspa Phli:phli=inscriptionalpahlavi
  Phlp:phlp=psalterpahlavi Phnx:phnx=phoenician Plrd:plrd=miao Prti:prti=inscriptionalparthian
  Rjng:rjng=rejang Rohg:rohg=hanifirohingya Runr:runr=runic Samr:samr=samaritan
  Sarb:sarb=oldsoutharabian Saur:saur=saurashtra Sgnw:sgnw=signwriting Shaw:shaw=shavian
  Shrd:shrd=sharada Sidd:sidd=siddham Sind:sind=khudawadi Sinh:sinh=sinhala Sogd:sogd=sogdian
  Sogo:sogo=oldsogdian Sora:sora=sorasompeng Soyo:soyo=soyombo Sund:sund=sundanese
  Sunu:sunu=sunuwar Sylo:sylo=sylotinagri Syrc:syrc=syriac Tagb:tagb=tagbanwa Takr:takr=takri
  Tale:tale=taile Talu:talu=newtailue Taml:taml=tamil Tang:tang=tangut Tavt:tavt=taiviet
  Telu:telu=telugu Tfng:tfng=tifinagh Tglg:tglg=tagalog Thaa:thaa=thaana Thai:thai
  Tibt:tibt=tibetan Tirh:tirh=tirhuta Tnsa:tnsa=tangsa Todr:todr=todhri Toto:toto
  Tutg:tutg=tulutigalari Ugar:ugar=ugaritic Vaii:vaii=vai Vith:vith=vithkuqi
  Wara:wara=warangciti Wcho:wcho=wancho Xpeo:xpeo=oldpersian Xsux:xsux=cuneiform
  Yezi:yezi=yezidi Yiii:yiii=yi Zanb:zanb=zanabazarsquare Zinh:zinh=inherited=qaai
  Zyyy:zyyy=common"

/-- Script codes with their names. -/
def names : List (String × List String) :=
  (Run.words nameTable).map fun entry =>
    match entry.splitOn ":" with
    | [code, aliases] => (code, aliases.splitOn "=")
    | _ => (entry, [])

/-- The code of the script that a loosely written name stands for. -/
def code? (name : String) : Option String :=
  (names.find? fun entry => entry.2.contains name).map (·.1)

end Descent.Unicode.Script
