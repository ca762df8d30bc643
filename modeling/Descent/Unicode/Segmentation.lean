/-
  The break classes of text segmentation (Unicode 16.0): grapheme cluster, word and sentence break.

  Each property is a table of runs beside the names of its values; `set?` finds the characters of a
  value by a loosely written name.
-/
import Descent.Unicode.Run

namespace Descent.Unicode.Segmentation

/-- Runs of one grapheme cluster break, as distances between their starts. -/
def clusterTable : String :=
  "0CN 10LF 1CN 2CR 1CN 18XX 95CN 33XX 9ExtPict_XX 1XX 3CN 1ExtPict_XX 1XX 593EX 112XX 275EX 7XX
  263EX 45XX 1EX 1XX 1EX 2XX 1EX 2XX 1EX 1XX 56PP 6XX 10EX 11XX 1CN 1XX 46EX 21XX 16EX 1XX 101EX
  7PP 1XX 1EX 6XX 2EX 2XX 1EX 4XX 33PP 1XX 1EX 1XX 30EX 27XX 91EX 11XX 58EX 9XX 9EX 1XX 24EX 4XX
  1EX 9XX 1EX 3XX 1EX 5XX 43EX 3XX 52PP 2XX 5EX 9XX 42EX 24PP 1EX 32SM 1XX 54EX 1SM 1EX 1XX 1SM
  3EX 8SM 4EX 1SM 2XX 1EX 7XX 10EX 2XX 29EX 1SM 2XX 56EX 1XX 1EX 1SM 2EX 4XX 2SM 2XX 2SM 2EX 1XX
  9EX 1XX 10EX 2XX 26EX 1XX 2EX 2SM 1XX 56EX 1XX 1SM 3EX 2XX 4EX 2XX 2EX 3XX 3EX 1XX 30EX 2XX
  3EX 1XX 11EX 2SM 1XX 56EX 1XX 1SM 3EX 5XX 1EX 2SM 1XX 1SM 2EX 1XX 20EX 2XX 22EX 6XX 1EX 1SM
  2XX 56EX 1XX 1EX 2SM 1EX 4XX 2SM 2XX 2SM 2EX 1XX 7EX 3XX 10EX 2XX 30EX 1XX 59EX 1SM 1EX 1SM
  2XX 3SM 3XX 1SM 3EX 1XX 9EX 1XX 40EX 1SM 3EX 1XX 55EX 1XX 1EX 3SM 4XX 1EX 3XX 1EX 4XX 7EX 2XX
  11EX 2XX 29EX 1SM 2XX 56EX 1XX 1SM 1EX 1SM 2EX 1SM 2XX 1EX 1SM 2XX 1SM 2EX 2XX 7EX 2XX 11EX
  2XX 15SM 1XX 12EX 2SM 2XX 55EX 2XX 1EX 1SM 2EX 4XX 1SM 3XX 1SM 3EX 1PP 1XX 8EX 1XX 10EX 2XX
  29EX 1SM 2XX 70EX 1XX 4EX 1SM 2EX 3XX 1EX 1XX 1SM 7EX 1XX 18SM 2XX 61EX 1XX 1SM 1EX 7XX 12EX
  8XX 98EX 1XX 1SM 1EX 9XX 11EX 7XX 73EX 2XX 27EX 1XX 1EX 1XX 1EX 1XX 4SM 2XX 49EX 14SM 1EX 5XX
  1EX 2XX 5EX 11XX 1EX 36XX 9EX 1XX 102EX 4SM 1EX 6XX 1EX 2SM 2EX 2XX 23SM 2EX 2XX 4EX 3XX 16EX
  4XX 13EX 1XX 1SM 1EX 2XX 6EX 1XX 15EX 1XX 98L 96V 72T 88XX 349EX 3XX 946EX 3SM 1XX 28EX 2SM
  1XX 29EX 2XX 30EX 2XX 64EX 2SM 1EX 7SM 8EX 1SM 2EX 11XX 9EX 1XX 45EX 3CN 1EX 1XX 117EX 2XX
  34EX 1XX 118EX 3SM 4EX 2SM 3XX 4SM 2EX 1SM 6EX 3XX 219EX 2SM 2EX 1XX 57SM 1EX 1SM 1EX 7XX 1EX
  1XX 1EX 1XX 2EX 8SM 6EX 10XX 2EX 1XX 48EX 31XX 49EX 4SM 1XX 47EX 7SM 1EX 1SM 5EX 1SM 2XX 38EX
  9XX 12EX 2SM 1XX 30SM 1EX 4SM 2EX 2SM 1EX 3XX 56EX 1SM 1EX 2SM 3EX 1SM 1EX 3SM 2XX 48SM 8EX
  8SM 2EX 2XX 152EX 3XX 1EX 13SM 1EX 7XX 4EX 1XX 6EX 1XX 2SM 1EX 2XX 198EX 64XX 523CN 1EX 1ZWJ
  1CN 2XX 24CN 7XX 13ExtPict_XX 1XX 12ExtPict_XX 1XX 22CN 16XX 96EX 33XX 49ExtPict_XX 1XX
  22ExtPict_XX 1XX 90ExtPict_XX 6XX 15ExtPict_XX 2XX 367ExtPict_XX 2XX 12ExtPict_XX 1XX
  95ExtPict_XX 1XX 70ExtPict_XX 1XX 25ExtPict_XX 11XX 4ExtPict_XX 3XX 199ExtPict_XX 1XX
  231ExtPict_XX 2XX 10ExtPict_XX 1XX 9ExtPict_XX 1XX 58ExtPict_XX 4XX 1ExtPict_XX 6XX
  1ExtPict_XX 12XX 1ExtPict_XX 114XX 10ExtPict_XX 118XX 2ExtPict_XX 11XX 1ExtPict_XX 1XX
  1ExtPict_XX 1XX 6ExtPict_XX 1XX 3ExtPict_XX 1XX 6ExtPict_XX 1XX 10ExtPict_XX 2XX 15ExtPict_XX
  1XX 2ExtPict_XX 1XX 4ExtPict_XX 1XX 1ExtPict_XX 1XX 4ExtPict_XX 3XX 1ExtPict_XX 1XX
  11ExtPict_XX 5XX 45ExtPict_XX 3XX 9ExtPict_XX 1XX 14ExtPict_XX 1XX 14ExtPict_XX 1XX
  372ExtPict_XX 2XX 463ExtPict_XX 3XX 19ExtPict_XX 2XX 51ExtPict_XX 1XX 4ExtPict_XX 1XX 409EX
  3XX 141EX 1XX 96EX 32XX 554EX 6ExtPict_XX 1XX 12ExtPict_XX 1XX 91EX 2XX 508ExtPict_XX 1XX
  1ExtPict_XX 1XX 29653EX 4XX 1EX 10XX 32EX 2XX 80EX 2XX 272EX 1XX 3EX 1XX 4EX 1XX 23SM 2EX 2SM
  1XX 4EX 1XX 83SM 2XX 50SM 16EX 2XX 26EX 18XX 13EX 1XX 38EX 8XX 25EX 11SM 2XX 12L 29XX 3EX 3SM
  1XX 47EX 1SM 2EX 4SM 2EX 2SM 3XX 36EX 1XX 67EX 6SM 2EX 2SM 2EX 2XX 12EX 1XX 8EX 1SM 1XX 46EX
  1XX 51EX 1XX 1EX 3XX 2EX 2XX 5EX 2XX 1EX 1XX 41SM 1EX 2SM 2XX 5SM 1EX 1XX 236SM 2EX 1SM 2EX
  1SM 2XX 1SM 1EX 1XX 18LV 1LVT 27LV 1LVT 27LV 1LVT 27LV 1LVT 27LV 1LVT 27LV 1LVT 27LV 1LVT 27LV
  1LVT 27LV 1LVT 27LV 1LVT 27LV 1LVT 27LV 1LVT 27LV 1LVT 27LV 1LVT 27LV 1LVT 27LV 1LVT 27LV 1LVT
  27LV 1LVT 27LV 1LVT 27LV 1LVT 27LV 1LVT 27LV 1LVT 27LV 1LVT 27LV 1LVT 27LV 1LVT 27LV 1LVT 27LV
  1LVT 27LV 1LVT 27LV 1LVT 27LV 1LVT 27LV 1LVT 27LV 1LVT 27LV 1LVT 27LV 1LVT 27LV 1LVT 27LV 1LVT
  27LV 1LVT 27LV 1LVT 27LV 1LVT 27LV 1LVT 27LV 1LVT 27LV 1LVT 27LV 1LVT 27LV 1LVT 27LV 1LVT 27LV
  1LVT 27LV 1LVT 27LV 1LVT 27LV 1LVT 27LV 1LVT 27LV 1LVT 27LV 1LVT 27LV 1LVT 27LV 1LVT 27LV 1LVT
  27LV 1LVT 27LV 1LVT 27LV 1LVT 27LV 1LVT 27LV 1LVT 27LV 1LVT 27LV 1LVT 27LV 1LVT 27LV 1LVT 27LV
  1LVT 27LV 1LVT 27LV 1LVT 27LV 1LVT 27LV 1LVT 27LV 1LVT 27LV 1LVT 27LV 1LVT 27LV 1LVT 27LV 1LVT
  27LV 1LVT 27LV 1LVT 27LV 1LVT 27LV 1LVT 27LV 1LVT 27LV 1LVT 27LV 1LVT 27LV 1LVT 27LV 1LVT 27LV
  1LVT 27LV 1LVT 27LV 1LVT 27LV 1LVT 27LV 1LVT 27LV 1LVT 27LV 1LVT 27LV 1LVT 27LV 1LVT 27LV 1LVT
  27LV 1LVT 27LV 1LVT 27LV 1LVT 27LV 1LVT 27LV 1LVT 27LV 1LVT 27LV 1LVT 27LV 1LVT 27LV 1LVT 27LV
  1LVT 27LV 1LVT 27LV 1LVT 27LV 1LVT 27LV 1LVT 27LV 1LVT 27LV 1LVT 27LV 1LVT 27LV 1LVT 27LV 1LVT
  27LV 1LVT 27LV 1LVT 27LV 1LVT 27LV 1LVT 27LV 1LVT 27LV 1LVT 27LV 1LVT 27LV 1LVT 27LV 1LVT 27LV
  1LVT 27LV 1LVT 27LV 1LVT 27LV 1LVT 27LV 1LVT 27LV 1LVT 27LV 1LVT 27LV 1LVT 27LV 1LVT 27LV 1LVT
  27LV 1LVT 27LV 1LVT 27LV 1LVT 27LV 1LVT 27LV 1LVT 27LV 1LVT 27LV 1LVT 27LV 1LVT 27LV 1LVT 27LV
  1LVT 27LV 1LVT 27LV 1LVT 27LV 1LVT 27LV 1LVT 27LV 1LVT 27LV 1LVT 27LV 1LVT 27LV 1LVT 27LV 1LVT
  27LV 1LVT 27LV 1LVT 27LV 1LVT 27LV 1LVT 27LV 1LVT 27LV 1LVT 27LV 1LVT 27LV 1LVT 27LV 1LVT 27LV
  1LVT 27LV 1LVT 27LV 1LVT 27LV 1LVT 27LV 1LVT 27LV 1LVT 27LV 1LVT 27LV 1LVT 27LV 1LVT 27LV 1LVT
  27LV 1LVT 27LV 1LVT 27LV 1LVT 27LV 1LVT 27LV 1LVT 27LV 1LVT 27LV 1LVT 27LV 1LVT 27LV 1LVT 27LV
  1LVT 27LV 1LVT 27LV 1LVT 27LV 1LVT 27LV 1LVT 27LV 1LVT 27LV 1LVT 27LV 1LVT 27LV 1LVT 27LV 1LVT
  27LV 1LVT 27LV 1LVT 27LV 1LVT 27LV 1LVT 27LV 1LVT 27LV 1LVT 27LV 1LVT 27LV 1LVT 27LV 1LVT 27LV
  1LVT 27LV 1LVT 27LV 1LVT 27LV 1LVT 27LV 1LVT 27LV 1LVT 27LV 1LVT 27LV 1LVT 27LV 1LVT 27LV 1LVT
  27LV 1LVT 27LV 1LVT 27LV 1LVT 27LV 1LVT 27LV 1LVT 27LV 1LVT 27LV 1LVT 27LV 1LVT 27LV 1LVT 27LV
  1LVT 27LV 1LVT 27LV 1LVT 27LV 1LVT 27LV 1LVT 27LV 1LVT 27LV 1LVT 27LV 1LVT 27LV 1LVT 27LV 1LVT
  27LV 1LVT 27LV 1LVT 27LV 1LVT 27LV 1LVT 27LV 1LVT 27LV 1LVT 27LV 1LVT 27LV 1LVT 27LV 1LVT 27LV
  1LVT 27LV 1LVT 27LV 1LVT 27LV 1LVT 27LV 1LVT 27LV 1LVT 27LV 1LVT 27LV 1LVT 27LV 1LVT 27LV 1LVT
  27LV 1LVT 27LV 1LVT 27LV 1LVT 27LV 1LVT 27LV 1LVT 27LV 1LVT 27LV 1LVT 27LV 1LVT 27LV 1LVT 27LV
  1LVT 27LV 1LVT 27LV 1LVT 27LV 1LVT 27LV 1LVT 27LV 1LVT 27LV 1LVT 27LV 1LVT 27LV 1LVT 27LV 1LVT
  27LV 1LVT 27LV 1LVT 27LV 1LVT 27LV 1LVT 27LV 1LVT 27LV 1LVT 27LV 1LVT 27LV 1LVT 27LV 1LVT 27LV
  1LVT 27LV 1LVT 27LV 1LVT 27LV 1LVT 27LV 1LVT 27LV 1LVT 27LV 1LVT 27LV 1LVT 27LV 1LVT 27LV 1LVT
  27LV 1LVT 27LV 1LVT 27LV 1LVT 27LV 1LVT 27LV 1LVT 27LV 1LVT 27LV 1LVT 27LV 1LVT 27LV 1LVT 27LV
  1LVT 27LV 1LVT 27LV 1LVT 27LV 1LVT 27LV 1LVT 27LV 1LVT 27LV 1LVT 27LV 1LVT 27LV 1LVT 27LV 1LVT
  27LV 1LVT 27LV 1LVT 27LV 1LVT 27LV 1LVT 27LV 1LVT 27LV 1LVT 27LV 1LVT 27LV 1LVT 27LV 1LVT 27LV
  1LVT 27LV 1LVT 27LV 1LVT 27LV 1LVT 27LV 1LVT 27LV 1LVT 27LV 1LVT 27LV 1LVT 27LV 1LVT 27LV 1LVT
  27LV 1LVT 27LV 1LVT 27LV 1LVT 27LV 1LVT 27LV 1LVT 27LV 1LVT 27LV 1LVT 27LV 1LVT 27LV 1LVT 27LV
  1LVT 27LV 1LVT 27LV 1LVT 27LV 1LVT 27LV 1LVT 27LV 1LVT 27LV 1LVT 27LV 1LVT 27LV 1LVT 27LV 1LVT
  27LV 1LVT 27LV 1LVT 27LV 1LVT 27LV 1LVT 27LV 1LVT 27LV 1LVT 27LV 1LVT 27LV 1LVT 27LV 1LVT 27LV
  1LVT 27LV 1LVT 27LV 1LVT 27LV 1LVT 27LV 1LVT 27LV 1LVT 27LV 1LVT 27LV 1LVT 27LV 1LVT 27LV 1LVT
  27LV 1LVT 27LV 1LVT 27LV 1LVT 27LV 1LVT 27LV 1LVT 27LV 1LVT 27LV 1LVT 27LV 1LVT 27LV 1LVT 27LV
  1LVT 27LV 1LVT 27LV 1LVT 27LV 1LVT 27LV 1LVT 27LV 1LVT 27LV 1LVT 27LV 1LVT 27LV 1LVT 27LV 1LVT
  27LV 1LVT 27LV 1LVT 27LV 1LVT 27LV 1LVT 27LV 1LVT 27LV 1LVT 27LV 1LVT 27LV 1LVT 27LV 1LVT 27LV
  1LVT 27LV 1LVT 27LV 1LVT 27LV 1LVT 27LV 1LVT 27LV 1LVT 27LV 1LVT 27LV 1LVT 27LV 1LVT 27LV 1LVT
  27LV 1LVT 27LV 1LVT 27XX 12V 23XX 4T 49XX 8994EX 1XX 737EX 16XX 16EX 16XX 207CN 1XX 158EX 2XX
  80CN 12XX 513EX 1XX 226EX 1XX 149EX 5XX 1670EX 3XX 1EX 2XX 5EX 4XX 40EX 3XX 4EX 1XX 165EX 2XX
  573EX 4XX 65EX 5XX 317EX 2XX 79EX 4XX 70EX 11XX 49EX 4XX 122SM 1EX 1SM 1XX 53EX 15XX 41EX 1XX
  2EX 2XX 10EX 3SM 1XX 45SM 3EX 4SM 2EX 2XX 2PP 1XX 4EX 1XX 10PP 1XX 50EX 3XX 36EX 5SM 1EX 8XX
  16SM 2XX 44EX 1XX 12EX 2SM 1XX 48SM 3EX 9SM 2XX 1PP 2XX 5EX 4XX 1SM 1EX 1XX 92SM 3EX 3SM 2EX
  1SM 1EX 2XX 6EX 1XX 2EX 1XX 157EX 1SM 3EX 8XX 21EX 2SM 2XX 55EX 2XX 1EX 1SM 1EX 1SM 4XX 2SM
  2XX 2SM 3XX 9EX 1XX 10SM 2XX 2EX 7XX 3EX 5XX 67SM 3EX 6XX 1SM 1XX 2SM 1XX 1SM 4XX 1SM 2EX 1SM
  1EX 1XX 1EX 1XX 14EX 2XX 82SM 3EX 8SM 2EX 3SM 1EX 1XX 23EX 1XX 81EX 1SM 2EX 6SM 1EX 1SM 2EX
  1SM 1EX 2SM 1EX 2XX 235EX 1SM 2EX 4XX 2SM 4EX 2SM 1EX 2XX 27EX 2XX 82SM 3EX 8SM 2EX 1SM 1EX
  2XX 106EX 1SM 1EX 1SM 2EX 6SM 1EX 1XX 101EX 3XX 2EX 4SM 1EX 5XX 256SM 3EX 9SM 1EX 2XX 245EX
  1SM 5XX 1SM 2XX 2EX 2SM 1EX 1PP 1SM 1PP 1SM 1EX 1XX 141SM 3EX 4XX 2EX 2SM 4EX 1XX 3SM 1XX 28EX
  10XX 40EX 6SM 1PP 1EX 4XX 8EX 1XX 9EX 6SM 2EX 3XX 40PP 6EX 13SM 1EX 2XX 405SM 1EX 7XX 1EX 6SM
  1EX 1XX 82EX 22XX 1SM 1EX 7SM 1EX 2SM 1EX 2XX 122EX 6XX 3EX 1XX 1EX 2XX 1EX 7PP 1EX 1XX 66SM
  5XX 1EX 2XX 1SM 2EX 1SM 1EX 1XX 347EX 2SM 2XX 9EX 2PP 1SM 1XX 48SM 2EX 5XX 3SM 2EX 1SM 1EX 1XX
  23EX 1XX 5333CN 16EX 1XX 6EX 15XX 11464EX 12SM 3EX 3XX 2496EX 5XX 59EX 7XX 1048EX 1XX 1SM 55XX
  7EX 4XX 81EX 1XX 11SM 2XX 19627EX 2XX 1CN 4XX 4700EX 46XX 2EX 23XX 542EX 1SM 1EX 3XX 3SM 1EX
  5CN 8EX 8XX 2EX 7XX 30EX 4XX 148EX 3XX 1979EX 55XX 4EX 50XX 8EX 1XX 14EX 1XX 22EX 5XX 1EX 15XX
  1360EX 7XX 1EX 17XX 2EX 7XX 1EX 2XX 1EX 5XX 100EX 1XX 160EX 7XX 375EX 1XX 61EX 4XX 508EX 4XX
  254EX 2XX 736EX 7XX 109EX 7XX 1717ExtPict_XX 256XX 13ExtPict_XX 3XX 31ExtPict_XX 1XX
  60ExtPict_XX 6XX 12ExtPict_XX 2XX 14ExtPict_XX 1XX 2ExtPict_XX 10XX 18ExtPict_XX 57RI 26XX
  1ExtPict_XX 15XX 10ExtPict_XX 1XX 20ExtPict_XX 1XX 2ExtPict_XX 9XX 1ExtPict_XX 4XX 9ExtPict_XX
  434EX 5ExtPict_XX 318XX 8ExtPict_XX 266XX 48ExtPict_XX 128XX 116ExtPict_XX 12XX 85ExtPict_XX
  43XX 12ExtPict_XX 4XX 56ExtPict_XX 8XX 10ExtPict_XX 6XX 40ExtPict_XX 8XX 30ExtPict_XX 4XX
  10ExtPict_XX 4XX 2ExtPict_XX 62XX 12ExtPict_XX 47XX 1ExtPict_XX 10XX 1ExtPict_XX 322XX
  1ExtPict_XX 5XX 1ExtPict_XX 46XX 1ExtPict_XX 7XX 1ExtPict_XX 21XX 1ExtPict_XX 2XX 1ExtPict_XX
  9XX 1ExtPict_XX 22XX 256ExtPict_XX 1022XX 786434CN 32EX 96CN 128EX 240CN 3600XX"

/-- The grapheme cluster break values with their names. -/
def clusterNames : String :=
  "CN:cn=control CR:cr EX:ex=extend L:l LF:lf LV:lv LVT:lvt PP:pp=prepend RI:ri=regionalindicator
  SM:sm=spacingmark T:t V:v ZWJ:zwj"

/-- Runs of one word break, as distances between their starts. -/
def wordTable : String :=
  "0XX 10LF 1NL 2CR 1XX 18WSegSpace 1XX 1DQ 1XX 4SQ 1XX 4MN 1XX 1MB 1XX 1NU 10ML 1MN 1XX 5LE 26XX
  4EX 1XX 1LE 26XX 10NL 1XX 35ExtPict_XX 1LE 1XX 2FO 1ExtPict_XX 1XX 6LE 1XX 1ML 1XX 2LE 1XX 5LE
  23XX 1LE 31XX 1LE 480XX 6LE 34Extend 112LE 5XX 1LE 2XX 2LE 4MN 1LE 1XX 6LE 1ML 1LE 3XX 1LE 1XX
  1LE 20XX 1LE 83XX 1LE 139XX 1Extend 7LE 166XX 1LE 38XX 2LE 4XX 1LE 1ML 1LE 41MN 1LE 1XX
  6Extend 45XX 1Extend 1XX 1Extend 2XX 1Extend 2XX 1Extend 1XX 8HL 27XX 4HL 4LE 1ML 1XX 11FO 6XX
  6MN 2XX 2Extend 11XX 1FO 1XX 3LE 43Extend 21NU 10XX 1NU 1MN 1XX 1LE 2Extend 1LE 99XX 1LE
  1Extend 7FO 1XX 1Extend 6LE 2Extend 2XX 1Extend 4LE 2NU 10LE 3XX 2LE 1XX 15FO 1LE 1Extend 1LE
  30Extend 27XX 2LE 89Extend 11LE 1XX 14NU 10LE 33Extend 9LE 2XX 2MN 1XX 1LE 1XX 2Extend 1XX 2LE
  22Extend 4LE 1Extend 9LE 1Extend 3LE 1Extend 5XX 18LE 25Extend 3XX 4LE 11XX 5LE 24XX 1LE 6XX
  1FO 2XX 5Extend 9LE 42Extend 24FO 1Extend 33LE 54Extend 3LE 1Extend 18LE 1Extend 7LE 10Extend
  2XX 2NU 10XX 1LE 16Extend 3XX 1LE 8XX 2LE 2XX 2LE 22XX 1LE 7XX 1LE 1XX 3LE 4XX 2Extend 1LE
  1Extend 7XX 2Extend 2XX 2Extend 3LE 1XX 8Extend 1XX 4LE 2XX 1LE 3Extend 2XX 2NU 10LE 2XX 10LE
  1XX 1Extend 1XX 2Extend 3XX 1LE 6XX 4LE 2XX 2LE 22XX 1LE 7XX 1LE 2XX 1LE 2XX 1LE 2XX 2Extend
  1XX 1Extend 5XX 4Extend 2XX 2Extend 3XX 3Extend 1XX 7LE 4XX 1LE 1XX 7NU 10Extend 2LE 3Extend
  1XX 11Extend 3XX 1LE 9XX 1LE 3XX 1LE 22XX 1LE 7XX 1LE 2XX 1LE 5XX 2Extend 1LE 1Extend 8XX
  1Extend 3XX 1Extend 3XX 2LE 1XX 15LE 2Extend 2XX 2NU 10XX 9LE 1Extend 6XX 1Extend 3XX 1LE 8XX
  2LE 2XX 2LE 22XX 1LE 7XX 1LE 2XX 1LE 5XX 2Extend 1LE 1Extend 7XX 2Extend 2XX 2Extend 3XX
  7Extend 3XX 4LE 2XX 1LE 3Extend 2XX 2NU 10XX 1LE 1XX 16Extend 1LE 1XX 1LE 6XX 3LE 3XX 1LE 4XX
  3LE 2XX 1LE 1XX 1LE 2XX 3LE 2XX 3LE 3XX 3LE 12XX 4Extend 5XX 3Extend 3XX 1Extend 4XX 2LE 1XX
  6Extend 1XX 14NU 10XX 16Extend 5LE 8XX 1LE 3XX 1LE 23XX 1LE 16XX 2Extend 1LE 1Extend 7XX
  1Extend 3XX 1Extend 4XX 7Extend 2XX 1LE 3XX 2LE 1XX 2LE 2Extend 2XX 2NU 10XX 16LE 1Extend 3XX
  1LE 8XX 1LE 3XX 1LE 23XX 1LE 10XX 1LE 5XX 2Extend 1LE 1Extend 7XX 1Extend 3XX 1Extend 4XX
  7Extend 2XX 6LE 2XX 1LE 2Extend 2XX 2NU 10XX 1LE 2Extend 1XX 12Extend 4LE 9XX 1LE 3XX 1LE
  41Extend 2LE 1Extend 7XX 1Extend 3XX 1Extend 4LE 1XX 5LE 3Extend 1XX 7LE 3Extend 2XX 2NU 10XX
  10LE 6XX 1Extend 3XX 1LE 18XX 3LE 24XX 1LE 9XX 1LE 1XX 2LE 7XX 3Extend 1XX 4Extend 6XX 1Extend
  1XX 1Extend 8XX 6NU 10XX 2Extend 2XX 61Extend 1XX 2Extend 7XX 12Extend 8XX 1NU 10XX 87Extend
  1XX 2Extend 9XX 11Extend 7XX 1NU 10XX 38LE 1XX 23Extend 2XX 6NU 10XX 11Extend 1XX 1Extend 1XX
  1Extend 1XX 4Extend 2LE 8XX 1LE 36XX 4Extend 20XX 1Extend 2LE 5Extend 11XX 1Extend 36XX
  9Extend 1XX 100Extend 20XX 1NU 10XX 12Extend 4XX 4Extend 3XX 1Extend 3XX 2Extend 7XX 3Extend
  4XX 13Extend 12XX 1Extend 1NU 10Extend 4XX 2LE 38XX 1LE 1XX 5LE 1XX 2LE 43XX 1LE 333XX 1LE 4XX
  2LE 7XX 1LE 1XX 1LE 4XX 2LE 41XX 1LE 4XX 2LE 33XX 1LE 4XX 2LE 7XX 1LE 1XX 1LE 4XX 2LE 15XX 1LE
  57XX 1LE 4XX 2LE 67XX 2Extend 3XX 32LE 16XX 16LE 86XX 2LE 6XX 3LE 620XX 2LE 17WSegSpace 1LE
  26XX 5LE 75XX 3LE 11XX 7LE 18Extend 4XX 9LE 19Extend 3XX 11LE 18Extend 2XX 12LE 13XX 1LE 3XX
  1Extend 2XX 64Extend 32XX 9Extend 1XX 2NU 10XX 33Extend 3FO 1Extend 1NU 10XX 6LE 89XX 7LE
  5Extend 2LE 34Extend 1LE 1XX 5LE 70XX 10LE 31XX 1Extend 12XX 4Extend 12XX 10NU 10XX 128NU 10XX
  38LE 23Extend 5XX 57Extend 10XX 1Extend 29XX 2Extend 1NU 10XX 6NU 10XX 22Extend 31XX 49Extend
  5LE 47Extend 17LE 8XX 3NU 10XX 17Extend 9XX 12Extend 3LE 30Extend 13LE 2NU 10LE 44Extend 14XX
  12LE 36Extend 20XX 8NU 10XX 3LE 3NU 10LE 36XX 2LE 11XX 5LE 43XX 2LE 3XX 16Extend 3XX 1Extend
  21LE 4Extend 1LE 6Extend 1LE 2Extend 3LE 1XX 5LE 192Extend 64LE 278XX 2LE 6XX 2LE 38XX 2LE 6XX
  2LE 8XX 1LE 1XX 1LE 1XX 1LE 1XX 1LE 31XX 2LE 53XX 1LE 7XX 1LE 1XX 3LE 3XX 1LE 7XX 3LE 4XX 2LE
  6XX 4LE 13XX 5LE 3XX 1LE 7XX 3WSegSpace 7XX 1WSegSpace 3XX 1Extend 1ZWJ 1FO 2XX 8MB 2XX 10MB
  1XX 2ML 1NL 2FO 5EX 1XX 12ExtPict_XX 1XX 2EX 2XX 3MN 1XX 4ExtPict_XX 1XX 10EX 1XX 10WSegSpace
  1FO 5XX 1FO 10XX 1LE 1XX 13LE 1XX 16LE 13XX 51Extend 33XX 17LE 1XX 4LE 1XX 2LE 10XX 1LE 1XX
  3LE 5XX 4ExtPict_XX 1XX 1LE 1XX 1LE 1XX 1LE 1XX 1LE 4XX 1LE 10ExtPict_LE 1XX 2LE 4XX 5LE 5XX
  4LE 1XX 17LE 41XX 11ExtPict_XX 6XX 15ExtPict_XX 2XX 367ExtPict_XX 2XX 12ExtPict_XX 1XX
  95ExtPict_XX 1XX 70ExtPict_XX 1XX 25ExtPict_XX 11XX 4ExtPict_XX 3XX 187LE 12ExtPict_LE 1LE
  39XX 192ExtPict_XX 2XX 10ExtPict_XX 1XX 9ExtPict_XX 1XX 58ExtPict_XX 4XX 1ExtPict_XX 6XX
  1ExtPict_XX 12XX 1ExtPict_XX 114XX 10ExtPict_XX 118XX 2ExtPict_XX 11XX 1ExtPict_XX 1XX
  1ExtPict_XX 1XX 6ExtPict_XX 1XX 3ExtPict_XX 1XX 6ExtPict_XX 1XX 10ExtPict_XX 2XX 15ExtPict_XX
  1XX 2ExtPict_XX 1XX 4ExtPict_XX 1XX 1ExtPict_XX 1XX 4ExtPict_XX 3XX 1ExtPict_XX 1XX
  11ExtPict_XX 5XX 45ExtPict_XX 3XX 9ExtPict_XX 1XX 14ExtPict_XX 1XX 14ExtPict_XX 1XX
  372ExtPict_XX 2XX 463ExtPict_XX 3XX 19ExtPict_XX 2XX 51ExtPict_XX 1XX 4ExtPict_XX 1XX 170LE
  229XX 6LE 4Extend 3LE 2XX 12LE 38XX 1LE 1XX 5LE 1XX 2LE 56XX 7LE 1XX 15Extend 1LE 23XX 9LE 7XX
  1LE 7XX 1LE 7XX 1LE 7XX 1LE 7XX 1LE 7XX 1LE 7XX 1LE 7XX 1Extend 32XX 47LE 1XX 464WSegSpace 1XX
  4LE 1XX 36Extend 6ExtPict_XX 1KA 5XX 5LE 2ExtPict_XX 1XX 91Extend 2KA 2XX 3KA 91XX 1KA 4XX 5LE
  43XX 1LE 94XX 17LE 32XX 48KA 16XX 151ExtPict_XX 1XX 1ExtPict_XX 1XX 54KA 47XX 1KA 88XX 27816LE
  1165XX 67LE 46XX 2LE 269XX 3LE 16NU 10LE 2XX 20LE 47Extend 4XX 1Extend 10XX 1LE 31Extend 2LE
  80Extend 2XX 22LE 198XX 2LE 2XX 1LE 1XX 1LE 8XX 21LE 16Extend 1LE 3Extend 1LE 4Extend 1LE
  23Extend 5XX 4Extend 1XX 19LE 52XX 12Extend 2LE 50Extend 18XX 10NU 10XX 6Extend 18LE 6XX 3LE
  1XX 1LE 2Extend 1NU 10LE 28Extend 8XX 2LE 23Extend 13XX 12LE 29XX 3Extend 4LE 47Extend 14XX
  14LE 1NU 10XX 11Extend 1XX 10NU 10XX 6LE 41Extend 14XX 9LE 3Extend 1LE 8Extend 2XX 2NU 10XX
  33Extend 3XX 50Extend 1XX 1Extend 3XX 2Extend 2XX 5Extend 2XX 1Extend 1XX 30LE 11Extend 5XX
  2LE 3Extend 2XX 10LE 6XX 2LE 6XX 2LE 6XX 9LE 7XX 1LE 7XX 1LE 58XX 6LE 115Extend 8XX 1Extend
  2XX 2NU 10XX 6LE 11172XX 12LE 23XX 4LE 49XX 8964LE 7XX 12LE 5XX 5HL 1Extend 1HL 10XX 1HL 13XX
  1HL 5XX 1HL 1XX 1HL 2XX 1HL 2XX 1HL 10LE 98XX 33LE 363XX 18LE 64XX 2LE 54XX 40LE 12XX 4Extend
  16MN 1XX 2ML 1MN 1XX 11Extend 16XX 3EX 2XX 24EX 3MN 1XX 1MB 1XX 1MN 1ML 1XX 26LE 5XX 1LE 135XX
  2FO 1XX 7MB 1XX 4MN 1XX 1MB 1XX 1NU 10ML 1MN 1XX 5LE 26XX 4EX 1XX 1LE 26XX 11KA 56Extend 2LE
  31XX 3LE 6XX 2LE 6XX 2LE 6XX 2LE 3XX 28FO 3XX 4LE 12XX 1LE 26XX 1LE 19XX 1LE 2XX 1LE 15XX 2LE
  14XX 34LE 123XX 69LE 53XX 136Extend 1XX 130LE 29XX 3LE 49XX 15Extend 1XX 31LE 32XX 13LE 30XX
  5LE 38Extend 5XX 5LE 30XX 2LE 36XX 4LE 8XX 1LE 5XX 42LE 158XX 2NU 10XX 6LE 36XX 4LE 36XX 4LE
  40XX 8LE 52XX 12LE 11XX 1LE 15XX 1LE 7XX 1LE 2XX 1LE 11XX 1LE 15XX 1LE 7XX 1LE 2XX 3LE 52XX
  12LE 311XX 9LE 22XX 10LE 8XX 24LE 6XX 1LE 42XX 1LE 9XX 69LE 6XX 2LE 1XX 1LE 44XX 1LE 2XX 3LE
  1XX 2LE 23XX 10LE 23XX 9LE 31XX 65LE 19XX 1LE 2XX 10LE 22XX 10LE 26XX 70LE 56XX 6LE 2XX 64LE
  1Extend 3XX 1Extend 2XX 5Extend 4LE 4XX 1LE 3XX 1LE 29XX 2Extend 3XX 4Extend 1XX 32LE 29XX 3LE
  29XX 35LE 8XX 1LE 28Extend 2XX 25LE 54XX 10LE 22XX 10LE 19XX 13LE 18XX 110LE 73XX 55LE 51XX
  13LE 51XX 13LE 36Extend 4XX 8NU 10XX 6NU 10LE 28XX 3Extend 5XX 1LE 23XX 250LE 42XX 1Extend 2XX
  3LE 2XX 16LE 3XX 55Extend 4LE 29XX 10LE 1XX 8LE 22Extend 11XX 31LE 18Extend 4XX 42LE 21XX 27LE
  23XX 9Extend 3LE 53Extend 15XX 31NU 10Extend 1LE 2Extend 2LE 1XX 9Extend 4LE 45Extend 11XX 2FO
  1XX 4Extend 1XX 10FO 1XX 2LE 25XX 7NU 10XX 6Extend 3LE 36Extend 14XX 1NU 10XX 4LE 1Extend 2LE
  1XX 8LE 35Extend 1XX 2LE 1XX 9Extend 3LE 48Extend 14LE 4XX 4Extend 4XX 1Extend 2NU 10LE 1XX
  1LE 1XX 35LE 18XX 1LE 25Extend 12XX 6Extend 1LE 2Extend 1XX 62LE 7XX 1LE 1XX 1LE 4XX 1LE 15XX
  1LE 10XX 7LE 47Extend 12XX 5NU 10XX 6Extend 4XX 1LE 8XX 2LE 2XX 2LE 22XX 1LE 7XX 1LE 2XX 1LE
  5XX 1Extend 2LE 1Extend 7XX 2Extend 2XX 2Extend 3XX 2LE 1XX 6Extend 1XX 5LE 5Extend 2XX
  2Extend 7XX 3Extend 5XX 11LE 10XX 1LE 1XX 2LE 1XX 1LE 38XX 1LE 1Extend 9XX 1Extend 1XX 2Extend
  1XX 1Extend 4XX 1Extend 5LE 1Extend 1LE 1XX 13Extend 2XX 29LE 53Extend 18LE 4XX 5NU 10XX
  4Extend 1LE 3XX 30LE 48Extend 20LE 2XX 1LE 1XX 8NU 10XX 166LE 47Extend 7XX 2Extend 9XX 23LE
  4Extend 2XX 34LE 48Extend 17XX 3LE 1XX 11NU 10XX 38LE 43Extend 13LE 1XX 7NU 10XX 6NU 20XX
  57Extend 15XX 4NU 10XX 198LE 44Extend 15XX 101LE 64NU 10XX 21LE 8XX 2LE 1XX 2LE 8XX 1LE 2XX
  1LE 24Extend 6XX 1Extend 2XX 2Extend 4LE 1Extend 1LE 1Extend 2XX 12NU 10XX 70LE 8XX 2LE
  39Extend 7XX 2Extend 7LE 1XX 1LE 1Extend 1XX 27LE 1Extend 10LE 40Extend 7LE 1Extend 4XX
  8Extend 1XX 8LE 1Extend 11LE 46Extend 16XX 3LE 1XX 18LE 73XX 199LE 33XX 15NU 10XX 6LE 9XX 1LE
  37Extend 8XX 1Extend 8LE 1XX 15NU 10XX 24LE 30XX 2Extend 22XX 1Extend 14XX 73LE 7XX 1LE 2XX
  1LE 38Extend 6XX 3Extend 1XX 1Extend 2XX 1Extend 7LE 1Extend 1XX 8NU 10XX 6LE 6XX 1LE 2XX 1LE
  32Extend 5XX 1Extend 2XX 1Extend 5LE 1XX 7NU 10XX 310LE 19Extend 4XX 9Extend 2LE 1Extend 1LE
  13XX 1LE 34Extend 7XX 3Extend 5XX 13NU 10Extend 1XX 85LE 1XX 79LE 922XX 102LE 111XX 17LE 196XX
  2636LE 97XX 15LE 1072FO 16Extend 1LE 6Extend 15XX 10LE 3995XX 5LE 583XX 6841LE 30Extend 18NU
  10XX 1734LE 569XX 7LE 31XX 1NU 10XX 6LE 79XX 1NU 10XX 6LE 30XX 2Extend 5XX 11LE 48Extend 7XX
  9LE 4XX 12NU 10XX 9LE 21XX 5LE 19XX 432LE 45XX 3NU 10XX 198LE 64XX 128LE 75XX 4Extend 1LE
  1Extend 55XX 7Extend 4LE 13XX 64LE 2XX 1LE 1Extend 1XX 11Extend 2XX 7437LE 1XX 8944KA 4XX 1KA
  7XX 1KA 2XX 1KA 1XX 287KA 3XX 50KA 1XX 14KA 4XX 2712LE 107XX 5LE 13XX 3LE 9XX 7LE 10XX 3Extend
  2XX 1FO 4XX 4172NU 10XX 518Extend 46XX 2Extend 23XX 542Extend 5XX 3Extend 6FO 8Extend 8XX
  2Extend 7XX 30Extend 4XX 148Extend 3XX 443LE 85XX 1LE 71XX 1LE 2XX 2LE 1XX 2LE 2XX 2LE 4XX 1LE
  12XX 1LE 1XX 1LE 7XX 1LE 65XX 1LE 4XX 2LE 8XX 1LE 7XX 1LE 28XX 1LE 4XX 1LE 5XX 1LE 1XX 3LE 7XX
  1LE 340XX 2LE 25XX 1LE 25XX 1LE 31XX 1LE 25XX 1LE 31XX 1LE 25XX 1LE 31XX 1LE 25XX 1LE 31XX 1LE
  25XX 1LE 8XX 2NU 50XX 512Extend 55XX 4Extend 50XX 8Extend 1XX 14Extend 1XX 22Extend 5XX
  1Extend 15XX 1104LE 31XX 6LE 6XX 213Extend 7XX 1Extend 17XX 2Extend 7XX 1Extend 2XX 1Extend
  5XX 5LE 62XX 33Extend 1XX 112LE 45XX 3Extend 7LE 7XX 2NU 10XX 4LE 1XX 321LE 30Extend 1XX 17LE
  44Extend 4NU 10XX 470LE 28Extend 4NU 10XX 214LE 30Extend 2LE 1NU 10XX 485LE 7XX 1LE 4XX 1LE
  2XX 1LE 15XX 1LE 197XX 11Extend 7XX 41LE 68Extend 7LE 1XX 4NU 10XX 1190LE 4XX 1LE 27XX 1LE 2XX
  1LE 1XX 2LE 1XX 1LE 10XX 1LE 4XX 1LE 1XX 1LE 1XX 6LE 1XX 4LE 1XX 1LE 1XX 1LE 1XX 1LE 3XX 1LE
  2XX 1LE 1XX 2LE 1XX 1LE 1XX 1LE 1XX 1LE 1XX 1LE 1XX 1LE 2XX 1LE 1XX 2LE 4XX 1LE 7XX 1LE 4XX
  1LE 4XX 1LE 1XX 1LE 10XX 1LE 17XX 5LE 3XX 1LE 5XX 1LE 17XX 324ExtPict_XX 256XX 13ExtPict_XX
  3XX 31ExtPict_XX 1LE 26XX 6LE 26XX 2ExtPict_XX 4ExtPict_LE 2LE 12ExtPict_LE 2LE 10XX
  4ExtPict_XX 1XX 2ExtPict_XX 10XX 18ExtPict_XX 57RI 26XX 1ExtPict_XX 15XX 10ExtPict_XX 1XX
  20ExtPict_XX 1XX 2ExtPict_XX 9XX 1ExtPict_XX 4XX 9ExtPict_XX 434Extend 5ExtPict_XX 318XX
  8ExtPict_XX 266XX 48ExtPict_XX 128XX 116ExtPict_XX 12XX 85ExtPict_XX 43XX 12ExtPict_XX 4XX
  56ExtPict_XX 8XX 10ExtPict_XX 6XX 40ExtPict_XX 8XX 30ExtPict_XX 4XX 10ExtPict_XX 4XX
  2ExtPict_XX 62XX 12ExtPict_XX 47XX 1ExtPict_XX 10XX 1ExtPict_XX 322XX 1ExtPict_XX 5XX
  1ExtPict_XX 46XX 1ExtPict_XX 7XX 1ExtPict_XX 21XX 1ExtPict_XX 2XX 1ExtPict_XX 9XX 1ExtPict_XX
  22XX 240NU 10XX 6ExtPict_XX 1022XX 786435FO 1XX 30Extend 96XX 128Extend 240XX"

/-- The word break values with their names. -/
def wordNames : String :=
  "CR:cr DQ:dq=doublequote EX:ex=extendnumlet Extend:extend FO:fo=format HL:hl=hebrewletter
  KA:ka=katakana LE:le=aletter LF:lf MB:mb=midnumlet ML:ml=midletter MN:mn=midnum NL:nl=newline
  NU:nu=numeric RI:ri=regionalindicator SQ:sq=singlequote WSegSpace:wsegspace ZWJ:zwj"

/-- Runs of one sentence break, as distances between their starts. -/
def sentenceTable : String :=
  "0XX 9SP 1LF 1SP 2CR 1XX 18SP 1ST 1CL 1XX 4CL 3XX 2SC 2AT 1XX 1NU 10SC 1XX 4ST 1XX 1UP 26CL 1XX
  1CL 1XX 3LO 26CL 1XX 1CL 1XX 7SE 1XX 26SP 1XX 9LO 1CL 1XX 1FO 1XX 7LO 1XX 4LO 1CL 1XX 4UP 23XX
  1UP 7LO 24XX 1LO 8UP 1LO 1UP 1LO 1UP 1LO 1UP 1LO 1UP 1LO 1UP 1LO 1UP 1LO 1UP 1LO 1UP 1LO 1UP
  1LO 1UP 1LO 1UP 1LO 1UP 1LO 1UP 1LO 1UP 1LO 1UP 1LO 1UP 1LO 1UP 1LO 1UP 1LO 1UP 1LO 1UP 1LO
  1UP 1LO 1UP 1LO 1UP 1LO 1UP 1LO 1UP 1LO 1UP 1LO 1UP 1LO 2UP 1LO 1UP 1LO 1UP 1LO 1UP 1LO 1UP
  1LO 1UP 1LO 1UP 1LO 1UP 1LO 2UP 1LO 1UP 1LO 1UP 1LO 1UP 1LO 1UP 1LO 1UP 1LO 1UP 1LO 1UP 1LO
  1UP 1LO 1UP 1LO 1UP 1LO 1UP 1LO 1UP 1LO 1UP 1LO 1UP 1LO 1UP 1LO 1UP 1LO 1UP 1LO 1UP 1LO 1UP
  1LO 1UP 1LO 1UP 1LO 1UP 1LO 1UP 2LO 1UP 1LO 1UP 1LO 3UP 2LO 1UP 1LO 1UP 2LO 1UP 3LO 2UP 4LO
  1UP 2LO 1UP 3LO 3UP 2LO 1UP 2LO 1UP 1LO 1UP 1LO 1UP 2LO 1UP 1LO 2UP 1LO 1UP 2LO 1UP 3LO 1UP
  1LO 1UP 2LO 2LE 1UP 1LO 3LE 4UP 2LO 1UP 2LO 1UP 2LO 1UP 1LO 1UP 1LO 1UP 1LO 1UP 1LO 1UP 1LO
  1UP 1LO 1UP 1LO 1UP 1LO 2UP 1LO 1UP 1LO 1UP 1LO 1UP 1LO 1UP 1LO 1UP 1LO 1UP 1LO 1UP 1LO 1UP
  1LO 2UP 2LO 1UP 1LO 1UP 3LO 1UP 1LO 1UP 1LO 1UP 1LO 1UP 1LO 1UP 1LO 1UP 1LO 1UP 1LO 1UP 1LO
  1UP 1LO 1UP 1LO 1UP 1LO 1UP 1LO 1UP 1LO 1UP 1LO 1UP 1LO 1UP 1LO 1UP 1LO 1UP 1LO 1UP 1LO 1UP
  1LO 1UP 1LO 1UP 1LO 1UP 1LO 1UP 1LO 1UP 1LO 1UP 1LO 1UP 1LO 1UP 1LO 1UP 1LO 7UP 2LO 1UP 2LO
  2UP 1LO 1UP 4LO 1UP 1LO 1UP 1LO 1UP 1LO 1UP 1LO 69LE 1LO 36LE 7LO 2XX 4LE 12XX 14LO 5XX 7LE
  1XX 1LE 1XX 17EX 112UP 1LO 1UP 1LO 1LE 1XX 1UP 1LO 1XX 2LO 4XX 1UP 1XX 6UP 1XX 1UP 3XX 1UP 1XX
  1UP 2LO 1UP 17XX 1UP 9LO 35UP 1LO 2UP 3LO 3UP 1LO 1UP 1LO 1UP 1LO 1UP 1LO 1UP 1LO 1UP 1LO 1UP
  1LO 1UP 1LO 1UP 1LO 1UP 1LO 1UP 1LO 1UP 1LO 5UP 1LO 1XX 1UP 1LO 1UP 2LO 2UP 51LO 48UP 1LO 1UP
  1LO 1UP 1LO 1UP 1LO 1UP 1LO 1UP 1LO 1UP 1LO 1UP 1LO 1UP 1LO 1UP 1LO 1UP 1LO 1UP 1LO 1UP 1LO
  1UP 1LO 1UP 1LO 1UP 1LO 1UP 1LO 1XX 1EX 7UP 1LO 1UP 1LO 1UP 1LO 1UP 1LO 1UP 1LO 1UP 1LO 1UP
  1LO 1UP 1LO 1UP 1LO 1UP 1LO 1UP 1LO 1UP 1LO 1UP 1LO 1UP 1LO 1UP 1LO 1UP 1LO 1UP 1LO 1UP 1LO
  1UP 1LO 1UP 1LO 1UP 1LO 1UP 1LO 1UP 1LO 1UP 1LO 1UP 1LO 1UP 1LO 1UP 1LO 1UP 2LO 1UP 1LO 1UP
  1LO 1UP 1LO 1UP 1LO 1UP 1LO 1UP 1LO 2UP 1LO 1UP 1LO 1UP 1LO 1UP 1LO 1UP 1LO 1UP 1LO 1UP 1LO
  1UP 1LO 1UP 1LO 1UP 1LO 1UP 1LO 1UP 1LO 1UP 1LO 1UP 1LO 1UP 1LO 1UP 1LO 1UP 1LO 1UP 1LO 1UP
  1LO 1UP 1LO 1UP 1LO 1UP 1LO 1UP 1LO 1UP 1LO 1UP 1LO 1UP 1LO 1UP 1LO 1UP 1LO 1UP 1LO 1UP 1LO
  1UP 1LO 1UP 1LO 1UP 1LO 1UP 1LO 1UP 1LO 1UP 1LO 1UP 1LO 1UP 1LO 1UP 1LO 1UP 1LO 1UP 1LO 1UP
  1LO 1UP 1LO 1UP 1LO 1UP 1LO 1UP 1LO 1UP 1LO 1UP 1LO 1XX 1UP 38XX 2LE 1XX 3SC 1XX 2LO 41ST 1XX
  7EX 45XX 1EX 1XX 1EX 2XX 1EX 2XX 1EX 1XX 8LE 27XX 4LE 5XX 12FO 6XX 6SC 2XX 2EX 11XX 1FO 1ST
  3LE 43EX 21NU 10XX 1NU 2XX 1LE 2EX 1LE 99ST 1LE 1EX 7FO 1XX 1EX 6LE 2EX 2XX 1EX 4LE 2NU 10LE
  3XX 2LE 1ST 3XX 12FO 1LE 1EX 1LE 30EX 27XX 2LE 89EX 11LE 1XX 14NU 10LE 33EX 9LE 2XX 2SC 1ST
  1LE 1XX 2EX 1XX 2LE 22EX 4LE 1EX 9LE 1EX 3LE 1EX 5XX 9ST 1XX 1ST 1XX 3ST 2XX 1LE 25EX 3XX 4LE
  11XX 5LE 24XX 1LE 6XX 1FO 2XX 5EX 9LE 42EX 24FO 1EX 33LE 54EX 3LE 1EX 18LE 1EX 7LE 10EX 2ST
  2NU 10XX 1LE 16EX 3XX 1LE 8XX 2LE 2XX 2LE 22XX 1LE 7XX 1LE 1XX 3LE 4XX 2EX 1LE 1EX 7XX 2EX 2XX
  2EX 3LE 1XX 8EX 1XX 4LE 2XX 1LE 3EX 2XX 2NU 10LE 2XX 10LE 1XX 1EX 1XX 2EX 3XX 1LE 6XX 4LE 2XX
  2LE 22XX 1LE 7XX 1LE 2XX 1LE 2XX 1LE 2XX 2EX 1XX 1EX 5XX 4EX 2XX 2EX 3XX 3EX 1XX 7LE 4XX 1LE
  1XX 7NU 10EX 2LE 3EX 1XX 11EX 3XX 1LE 9XX 1LE 3XX 1LE 22XX 1LE 7XX 1LE 2XX 1LE 5XX 2EX 1LE 1EX
  8XX 1EX 3XX 1EX 3XX 2LE 1XX 15LE 2EX 2XX 2NU 10XX 9LE 1EX 6XX 1EX 3XX 1LE 8XX 2LE 2XX 2LE 22XX
  1LE 7XX 1LE 2XX 1LE 5XX 2EX 1LE 1EX 7XX 2EX 2XX 2EX 3XX 7EX 3XX 4LE 2XX 1LE 3EX 2XX 2NU 10XX
  1LE 1XX 16EX 1LE 1XX 1LE 6XX 3LE 3XX 1LE 4XX 3LE 2XX 1LE 1XX 1LE 2XX 3LE 2XX 3LE 3XX 3LE 12XX
  4EX 5XX 3EX 3XX 1EX 4XX 2LE 1XX 6EX 1XX 14NU 10XX 16EX 5LE 8XX 1LE 3XX 1LE 23XX 1LE 16XX 2EX
  1LE 1EX 7XX 1EX 3XX 1EX 4XX 7EX 2XX 1LE 3XX 2LE 1XX 2LE 2EX 2XX 2NU 10XX 16LE 1EX 3XX 1LE 8XX
  1LE 3XX 1LE 23XX 1LE 10XX 1LE 5XX 2EX 1LE 1EX 7XX 1EX 3XX 1EX 4XX 7EX 2XX 6LE 2XX 1LE 2EX 2XX
  2NU 10XX 1LE 2EX 1XX 12EX 4LE 9XX 1LE 3XX 1LE 41EX 2LE 1EX 7XX 1EX 3XX 1EX 4LE 1XX 5LE 3EX 1XX
  7LE 3EX 2XX 2NU 10XX 10LE 6XX 1EX 3XX 1LE 18XX 3LE 24XX 1LE 9XX 1LE 1XX 2LE 7XX 3EX 1XX 4EX
  6XX 1EX 1XX 1EX 8XX 6NU 10XX 2EX 2XX 13LE 48EX 1LE 2EX 7XX 5LE 7EX 8XX 1NU 10XX 39LE 2XX 1LE
  1XX 1LE 5XX 1LE 24XX 1LE 1XX 1LE 10EX 1LE 2EX 9LE 1XX 2LE 5XX 1LE 1XX 1EX 7XX 1NU 10XX 2LE 4XX
  32LE 1XX 23EX 2XX 6NU 10XX 11EX 1XX 1EX 1XX 1EX 1CL 4EX 2LE 8XX 1LE 36XX 4EX 20XX 1EX 2LE 5EX
  11XX 1EX 36XX 9EX 1XX 57LE 43EX 20LE 1NU 10ST 2XX 4LE 6EX 4LE 4EX 3LE 1EX 3LE 2EX 7LE 3EX 4LE
  13EX 12LE 1EX 1NU 10EX 4XX 2UP 38XX 1UP 1XX 5UP 1XX 2LE 43XX 1LO 1LE 332XX 1LE 4XX 2LE 7XX 1LE
  1XX 1LE 4XX 2LE 41XX 1LE 4XX 2LE 33XX 1LE 4XX 2LE 7XX 1LE 1XX 1LE 4XX 2LE 15XX 1LE 57XX 1LE
  4XX 2LE 67XX 2EX 3XX 2ST 1XX 4ST 2XX 23LE 16XX 16UP 86XX 2LO 6XX 3LE 620XX 1ST 1LE 17SP 1LE
  26CL 2XX 3LE 75XX 3LE 11XX 7LE 18EX 4XX 9LE 19EX 3ST 2XX 9LE 18EX 2XX 12LE 13XX 1LE 3XX 1EX
  2XX 12LE 52EX 32XX 3LE 1XX 4LE 1EX 1XX 2NU 10XX 24SC 1ST 1XX 4SC 1ST 1XX 1EX 3FO 1EX 1NU 10XX
  6LE 89XX 7LE 5EX 2LE 34EX 1LE 1XX 5LE 70XX 10LE 31XX 1EX 12XX 4EX 12XX 8ST 2NU 10LE 30XX 2LE
  5XX 11LE 44XX 4LE 26XX 6NU 10XX 38LE 23EX 5XX 4LE 53EX 10XX 1EX 29XX 2EX 1NU 10XX 6NU 10XX
  13LE 1ST 4XX 4EX 31XX 49EX 5LE 47EX 17LE 8XX 3NU 10ST 2XX 2ST 2XX 11EX 9XX 9ST 2XX 1EX 3LE
  30EX 13LE 2NU 10LE 44EX 14XX 12LE 36EX 20XX 3ST 2XX 3NU 10XX 3LE 3NU 10LE 36ST 2LO 9UP 1LO 1XX
  5LE 43XX 2LE 3XX 16EX 3XX 1EX 21LE 4EX 1LE 6EX 1LE 2EX 3LE 1XX 5LO 192EX 64UP 1LO 1UP 1LO 1UP
  1LO 1UP 1LO 1UP 1LO 1UP 1LO 1UP 1LO 1UP 1LO 1UP 1LO 1UP 1LO 1UP 1LO 1UP 1LO 1UP 1LO 1UP 1LO
  1UP 1LO 1UP 1LO 1UP 1LO 1UP 1LO 1UP 1LO 1UP 1LO 1UP 1LO 1UP 1LO 1UP 1LO 1UP 1LO 1UP 1LO 1UP
  1LO 1UP 1LO 1UP 1LO 1UP 1LO 1UP 1LO 1UP 1LO 1UP 1LO 1UP 1LO 1UP 1LO 1UP 1LO 1UP 1LO 1UP 1LO
  1UP 1LO 1UP 1LO 1UP 1LO 1UP 1LO 1UP 1LO 1UP 1LO 1UP 1LO 1UP 1LO 1UP 1LO 1UP 1LO 1UP 1LO 1UP
  1LO 1UP 1LO 1UP 1LO 1UP 1LO 1UP 1LO 1UP 1LO 1UP 1LO 1UP 1LO 1UP 1LO 1UP 1LO 1UP 1LO 1UP 1LO
  1UP 1LO 1UP 1LO 1UP 1LO 1UP 1LO 1UP 1LO 1UP 1LO 1UP 1LO 1UP 1LO 1UP 1LO 1UP 1LO 1UP 1LO 1UP
  1LO 1UP 1LO 1UP 1LO 1UP 1LO 9UP 1LO 1UP 1LO 1UP 1LO 1UP 1LO 1UP 1LO 1UP 1LO 1UP 1LO 1UP 1LO
  1UP 1LO 1UP 1LO 1UP 1LO 1UP 1LO 1UP 1LO 1UP 1LO 1UP 1LO 1UP 1LO 1UP 1LO 1UP 1LO 1UP 1LO 1UP
  1LO 1UP 1LO 1UP 1LO 1UP 1LO 1UP 1LO 1UP 1LO 1UP 1LO 1UP 1LO 1UP 1LO 1UP 1LO 1UP 1LO 1UP 1LO
  1UP 1LO 1UP 1LO 1UP 1LO 1UP 1LO 1UP 1LO 1UP 1LO 1UP 1LO 1UP 1LO 1UP 1LO 1UP 1LO 1UP 1LO 1UP
  1LO 1UP 1LO 1UP 1LO 1UP 1LO 1UP 1LO 1UP 1LO 1UP 1LO 9UP 8LO 6XX 2UP 6XX 2LO 8UP 8LO 8UP 8LO
  6XX 2UP 6XX 2LO 8XX 1UP 1XX 1UP 1XX 1UP 1XX 1UP 1LO 8UP 8LO 14XX 2LO 8UP 8LO 8UP 8LO 8UP 8LO
  5XX 1LO 2UP 5XX 1LO 1XX 3LO 3XX 1LO 2UP 5XX 3LO 4XX 2LO 2UP 4XX 4LO 8UP 5XX 5LO 3XX 1LO 2UP
  5XX 3SP 11FO 1EX 2FO 2XX 3SC 2XX 3CL 8XX 4AT 1XX 3SE 2FO 5SP 1XX 9CL 2XX 1ST 2XX 7CL 2ST 3XX
  21SP 1FO 5XX 1FO 10XX 1LO 1XX 11CL 2LO 1XX 13CL 2XX 1LO 13XX 51EX 33XX 17UP 1XX 4UP 1XX 2LO
  1UP 3LO 2UP 3LO 1XX 1UP 1XX 3UP 5XX 6UP 1XX 1UP 1XX 1UP 1XX 1UP 4XX 1LO 1UP 4LO 1LE 4LO 1XX
  2LO 2UP 2XX 5UP 1LO 4XX 4LO 1XX 17UP 16LO 16LE 3UP 1LO 1LE 4XX 383CL 4XX 29CL 2XX 395UP 26LO
  26XX 625CL 6XX 7CL 14XX 79CL 2XX 31CL 10XX 403CL 22XX 63CL 4XX 32CL 2XX 514UP 48LO 48UP 1LO
  1UP 3LO 2UP 1LO 1UP 1LO 1UP 1LO 1UP 4LO 1UP 1LO 2UP 1LO 8UP 3LO 1UP 1LO 1UP 1LO 1UP 1LO 1UP
  1LO 1UP 1LO 1UP 1LO 1UP 1LO 1UP 1LO 1UP 1LO 1UP 1LO 1UP 1LO 1UP 1LO 1UP 1LO 1UP 1LO 1UP 1LO
  1UP 1LO 1UP 1LO 1UP 1LO 1UP 1LO 1UP 1LO 1UP 1LO 1UP 1LO 1UP 1LO 1UP 1LO 1UP 1LO 1UP 1LO 1UP
  1LO 1UP 1LO 1UP 1LO 1UP 1LO 1UP 1LO 1UP 1LO 1UP 1LO 1UP 1LO 1UP 1LO 1UP 1LO 1UP 1LO 1UP 1LO
  1UP 1LO 1UP 1LO 1UP 1LO 1UP 1LO 1UP 1LO 1UP 1LO 1UP 1LO 1UP 1LO 1UP 1LO 1UP 1LO 1UP 1LO 2XX
  6UP 1LO 1UP 1LO 1EX 3UP 1LO 1XX 12LO 38XX 1LO 1XX 5LO 1XX 2LE 56XX 7LE 1XX 15EX 1LE 23XX 9LE
  7XX 1LE 7XX 1LE 7XX 1LE 7XX 1LE 7XX 1LE 7XX 1LE 7XX 1LE 7XX 1EX 32CL 14XX 14CL 2XX 2CL 10XX
  4ST 1LE 1XX 12ST 1XX 5CL 1XX 16ST 2CL 8XX 419SP 1SC 1ST 1XX 2LE 3CL 10XX 2CL 8XX 1CL 3XX 1LE
  9EX 6XX 1LE 5XX 2LE 5XX 4LE 86XX 2EX 2XX 2LE 3XX 1LE 90XX 1LE 4XX 5LE 43XX 1LE 94XX 17LE 32XX
  48LE 16XX 512LE 6592XX 64LE 22157XX 67LE 46XX 1ST 1LE 269XX 1ST 2LE 16NU 10LE 2XX 20UP 1LO 1UP
  1LO 1UP 1LO 1UP 1LO 1UP 1LO 1UP 1LO 1UP 1LO 1UP 1LO 1UP 1LO 1UP 1LO 1UP 1LO 1UP 1LO 1UP 1LO
  1UP 1LO 1UP 1LO 1UP 1LO 1UP 1LO 1UP 1LO 1UP 1LO 1UP 1LO 1UP 1LO 1UP 1LO 1UP 1LO 1LE 1EX 4XX
  1EX 10XX 1LE 1UP 1LO 1UP 1LO 1UP 1LO 1UP 1LO 1UP 1LO 1UP 1LO 1UP 1LO 1UP 1LO 1UP 1LO 1UP 1LO
  1UP 1LO 1UP 1LO 1UP 1LO 1UP 1LO 3EX 2LE 80EX 2XX 1ST 1XX 3ST 1XX 31LE 9XX 2UP 1LO 1UP 1LO 1UP
  1LO 1UP 1LO 1UP 1LO 1UP 1LO 1UP 1LO 3UP 1LO 1UP 1LO 1UP 1LO 1UP 1LO 1UP 1LO 1UP 1LO 1UP 1LO
  1UP 1LO 1UP 1LO 1UP 1LO 1UP 1LO 1UP 1LO 1UP 1LO 1UP 1LO 1UP 1LO 1UP 1LO 1UP 1LO 1UP 1LO 1UP
  1LO 1UP 1LO 1UP 1LO 1UP 1LO 1UP 1LO 1UP 1LO 1UP 1LO 1UP 1LO 1UP 1LO 1UP 1LO 1UP 1LO 1UP 1LO
  1UP 1LO 10UP 1LO 1UP 1LO 1UP 2LO 1UP 1LO 1UP 1LO 1UP 1LO 1UP 1LO 1LE 1XX 2UP 1LO 1UP 1LO 1LE
  1UP 1LO 1UP 1LO 3UP 1LO 1UP 1LO 1UP 1LO 1UP 1LO 1UP 1LO 1UP 1LO 1UP 1LO 1UP 1LO 1UP 1LO 1UP
  1LO 1UP 5LO 1UP 5LO 1UP 1LO 1UP 1LO 1UP 1LO 1UP 1LO 1UP 1LO 1UP 1LO 1UP 1LO 1UP 4LO 1UP 1LO
  1UP 2LO 1XX 2UP 1LO 1XX 1LO 1XX 1LO 1UP 1LO 1UP 1LO 1UP 1LO 1UP 1XX 21LO 3UP 1LO 1LE 1LO 3LE
  7EX 1LE 3EX 1LE 4EX 1LE 23EX 5XX 4EX 1XX 19LE 52XX 2ST 2XX 8EX 2LE 50EX 18XX 8ST 2NU 10XX 6EX
  18LE 6XX 3LE 1XX 1LE 2EX 1NU 10LE 28EX 8XX 1ST 1LE 23EX 13XX 12LE 29XX 3EX 4LE 47EX 14XX 7ST
  2XX 5LE 1NU 10XX 6LE 5EX 1LE 10NU 10LE 5XX 1LE 41EX 14XX 9LE 3EX 1LE 8EX 2XX 2NU 10XX 3ST 3LE
  23XX 3LE 1EX 3LE 50EX 1LE 1EX 3LE 2EX 2LE 5EX 2LE 1EX 1LE 1XX 24LE 3XX 2LE 11EX 5ST 2LE 3EX
  2XX 10LE 6XX 2LE 6XX 2LE 6XX 9LE 7XX 1LE 7XX 1LO 43XX 1LO 14XX 6LO 80LE 35EX 8ST 1EX 2XX 2NU
  10XX 6LE 11172XX 12LE 23XX 4LE 49XX 8452LE 366XX 2LE 106XX 38LO 7XX 12LO 5XX 5LE 1EX 1LE 10XX
  1LE 13XX 1LE 5XX 1LE 1XX 1LE 2XX 1LE 2XX 1LE 108XX 33LE 363CL 2XX 16LE 64XX 2LE 54XX 40LE 12XX
  4EX 16SC 2XX 1SC 1XX 3CL 2XX 7EX 16XX 1SC 2XX 2CL 16XX 2CL 2XX 7SC 2AT 1XX 2SC 1ST 2SC 1CL 6XX
  4SC 1XX 12LE 5XX 1LE 135XX 2FO 1XX 1ST 1XX 6CL 2XX 2SC 2AT 1XX 1NU 10SC 1XX 4ST 1XX 1UP 26CL
  1XX 1CL 1XX 3LO 26CL 1XX 1CL 1XX 1CL 2ST 1CL 2SC 1XX 1LE 56EX 2LE 31XX 3LE 6XX 2LE 6XX 2LE 6XX
  2LE 3XX 28FO 3XX 4LE 12XX 1LE 26XX 1LE 19XX 1LE 2XX 1LE 15XX 2LE 14XX 34LE 123XX 69LE 53XX
  136EX 1XX 130LE 29XX 3LE 49XX 15EX 1XX 31LE 32XX 13LE 30XX 5LE 38EX 5XX 5LE 30XX 2LE 36XX 4LE
  8XX 1LE 5XX 42UP 40LO 40LE 78XX 2NU 10XX 6UP 36XX 4LO 36XX 4LE 40XX 8LE 52XX 12UP 11XX 1UP
  15XX 1UP 7XX 1UP 2XX 1LO 11XX 1LO 15XX 1LO 7XX 1LO 2XX 3LE 52XX 12LE 311XX 9LE 22XX 10LE 8XX
  24LO 1LE 2LO 3XX 1LO 42XX 1LO 9XX 69LE 6XX 2LE 1XX 1LE 44XX 1LE 2XX 3LE 1XX 2LE 23XX 10LE 23XX
  9LE 31XX 65LE 19XX 1LE 2XX 10LE 22XX 10LE 26XX 70LE 56XX 6LE 2XX 64LE 1EX 3XX 1EX 2XX 5EX 4LE
  4XX 1LE 3XX 1LE 29XX 2EX 3XX 4EX 1XX 22ST 2XX 8LE 29XX 3LE 29XX 35LE 8XX 1LE 28EX 2XX 25LE
  54XX 10LE 22XX 10LE 19XX 13LE 18XX 110LE 73XX 55UP 51XX 13LO 51XX 13LE 36EX 4XX 8NU 10XX 6NU
  10LE 6UP 22XX 3EX 5XX 1LE 1LO 22XX 250LE 42XX 1EX 2XX 3LE 2XX 16LE 3XX 55EX 4LE 29XX 10LE 1XX
  8LE 22EX 11XX 4ST 5XX 22LE 18EX 4ST 4XX 38LE 21XX 27LE 23XX 9EX 3LE 53EX 15ST 2XX 29NU 10EX
  1LE 2EX 2LE 1XX 9EX 4LE 45EX 11XX 2FO 1ST 4EX 1XX 10FO 1XX 2LE 25XX 7NU 10XX 6EX 3LE 36EX 14XX
  1NU 10XX 1ST 3LE 1EX 2LE 1XX 8LE 35EX 1XX 2LE 1XX 9EX 3LE 48EX 14LE 4ST 2XX 2EX 4ST 1EX 2NU
  10LE 1XX 1LE 1XX 1ST 2XX 32LE 18XX 1LE 25EX 12ST 2XX 1ST 2XX 1EX 1LE 2EX 1XX 62LE 7XX 1LE 1XX
  1LE 4XX 1LE 15XX 1LE 10ST 1XX 6LE 47EX 12XX 5NU 10XX 6EX 4XX 1LE 8XX 2LE 2XX 2LE 22XX 1LE 7XX
  1LE 2XX 1LE 5XX 1EX 2LE 1EX 7XX 2EX 2XX 2EX 3XX 2LE 1XX 6EX 1XX 5LE 5EX 2XX 2EX 7XX 3EX 5XX
  11LE 10XX 1LE 1XX 2LE 1XX 1LE 38XX 1LE 1EX 9XX 1EX 1XX 2EX 1XX 1EX 4XX 1EX 5LE 1EX 1LE 1XX
  13EX 2XX 29LE 53EX 18LE 4ST 2XX 3NU 10XX 4EX 1LE 3XX 30LE 48EX 20LE 2XX 1LE 1XX 8NU 10XX 166LE
  47EX 7XX 2EX 9XX 1ST 2XX 5ST 15LE 4EX 2XX 34LE 48EX 17ST 2XX 1LE 1XX 11NU 10XX 38LE 43EX 13LE
  1XX 7NU 10XX 6NU 20XX 28LE 27XX 2EX 15XX 4NU 10XX 2ST 3XX 1LE 7XX 185LE 44EX 15XX 101UP 32LO
  32NU 10XX 21LE 8XX 2LE 1XX 2LE 8XX 1LE 2XX 1LE 24EX 6XX 1EX 2XX 2EX 4LE 1EX 1LE 1EX 2ST 1XX
  1ST 1XX 9NU 10XX 70LE 8XX 2LE 39EX 7XX 2EX 7LE 1XX 1LE 1EX 1XX 27LE 1EX 10LE 40EX 7LE 1EX 4XX
  3ST 2XX 3EX 1XX 8LE 1EX 11LE 46EX 16XX 1ST 2LE 1XX 18LE 73XX 199LE 33XX 15NU 10XX 6LE 9XX 1LE
  37EX 8XX 1EX 8LE 1ST 2XX 13NU 10XX 24LE 30XX 2EX 22XX 1EX 14XX 73LE 7XX 1LE 2XX 1LE 38EX 6XX
  3EX 1XX 1EX 2XX 1EX 7LE 1EX 1XX 8NU 10XX 6LE 6XX 1LE 2XX 1LE 32EX 5XX 1EX 2XX 1EX 5LE 1XX 7NU
  10XX 310LE 19EX 4ST 2XX 7EX 2LE 1EX 1LE 13XX 1LE 34EX 7XX 3EX 5ST 2XX 11NU 10EX 1XX 85LE 1XX
  79LE 922XX 102LE 111XX 17LE 196XX 2636LE 97XX 15LE 1072FO 16EX 1LE 6EX 15XX 10LE 3995XX 5LE
  583XX 6841LE 30EX 18NU 10XX 1734LE 569XX 7LE 31XX 1NU 10XX 4ST 2LE 79XX 1NU 10XX 6LE 30XX 2EX
  5ST 1XX 10LE 48EX 7ST 2XX 7LE 4ST 1XX 11NU 10XX 9LE 21XX 5LE 19XX 432LE 45XX 3NU 10XX 198UP
  32LO 32XX 24ST 1XX 103LE 75XX 4EX 1LE 1EX 55XX 7EX 4LE 13XX 64LE 2XX 1LE 1EX 1XX 11EX 2XX 14LE
  6136XX 8LE 1238XX 41LE 10XX 8935LE 4XX 1LE 7XX 1LE 2XX 1LE 291XX 15LE 1XX 29LE 3XX 2LE 1XX
  14LE 4XX 8LE 396XX 2308LE 107XX 5LE 13XX 3LE 9XX 7LE 10XX 3EX 2ST 1FO 4XX 4172NU 10XX 518EX
  46XX 2EX 23XX 542EX 5XX 3EX 6FO 8EX 8XX 2EX 7XX 30EX 4XX 148EX 3XX 443UP 26LO 26UP 26LO 7XX
  1LO 18UP 26LO 26UP 1XX 1UP 2XX 2UP 1XX 2UP 2XX 2UP 4XX 1UP 8LO 4XX 1LO 1XX 1LO 7XX 1LO 11UP
  26LO 26UP 2XX 1UP 4XX 2UP 8XX 1UP 7XX 1LO 26UP 2XX 1UP 4XX 1UP 5XX 1UP 1XX 3UP 7XX 1LO 26UP
  26LO 26UP 26LO 26UP 26LO 26UP 26LO 26UP 26LO 26UP 26LO 28XX 2UP 25XX 1LO 25XX 1LO 6UP 25XX 1LO
  25XX 1LO 6UP 25XX 1LO 25XX 1LO 6UP 25XX 1LO 25XX 1LO 6UP 25XX 1LO 25XX 1LO 6UP 1LO 1XX 2NU
  50XX 512EX 55XX 4EX 50XX 8EX 1XX 14EX 1XX 3ST 1XX 18EX 5XX 1EX 15XX 1104LO 10LE 1LO 20XX 6LO
  6XX 213EX 7XX 1EX 17XX 2EX 7XX 1EX 2XX 1EX 5XX 5LO 62XX 33EX 1XX 112LE 45XX 3EX 7LE 7XX 2NU
  10XX 4LE 1XX 321LE 30EX 1XX 17LE 44EX 4NU 10XX 470LE 28EX 4NU 10XX 214LE 30EX 2LE 1NU 10XX
  485LE 7XX 1LE 4XX 1LE 2XX 1LE 15XX 1LE 197XX 11EX 7XX 41UP 34LO 34EX 7LE 1XX 4NU 10XX 1190LE
  4XX 1LE 27XX 1LE 2XX 1LE 1XX 2LE 1XX 1LE 10XX 1LE 4XX 1LE 1XX 1LE 1XX 6LE 1XX 4LE 1XX 1LE 1XX
  1LE 1XX 1LE 3XX 1LE 2XX 1LE 1XX 2LE 1XX 1LE 1XX 1LE 1XX 1LE 1XX 1LE 1XX 1LE 2XX 1LE 1XX 2LE
  4XX 1LE 7XX 1LE 4XX 1LE 4XX 1LE 1XX 1LE 10XX 1LE 17XX 5LE 3XX 1LE 5XX 1LE 17XX 628UP 26XX 6UP
  26XX 6UP 26XX 1260CL 3XX 1399NU 10XX 1030LE 42720XX 32LE 4154XX 6LE 222XX 2LE 5762XX 14LE
  7473XX 15LE 622XX 2466LE 542XX 1506LE 4939XX 5LE 4192XX 711761FO 1XX 30EX 96XX 128EX 240XX"

/-- The sentence break values with their names. -/
def sentenceNames : String :=
  "AT:at=aterm CL:cl=close CR:cr EX:ex=extend FO:fo=format LE:le=oletter LF:lf LO:lo=lower
  NU:nu=numeric SC:sc=scontinue SE:se=sep SP:sp ST:st=sterm UP:up=upper"

/-- The characters that a table gives the value of a loosely written name. -/
def set? (table names name : String) : Option CharSet :=
  ((Run.words names).findSome? fun entry =>
    match entry.splitOn ":" with
    | [value, aliases] => if (aliases.splitOn "=").contains name then some value else none
    | _ => none).map fun value => Run.select (· == value) (Run.parse table)

end Descent.Unicode.Segmentation
