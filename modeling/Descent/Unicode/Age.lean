/-
  The version of the standard in which every code point was assigned (Unicode 16.0).

  `runs` cuts the code points into runs of one version; a set by age holds what was assigned by then.
-/
import Descent.Unicode.Run

namespace Descent.Unicode.Age

/-- Runs of one version, as distances between their starts. -/
def table : String :=
  "0V1.1 502V3.0 4V1.1 30V3.0 8V3.2 1V4.0 1V3.0 18V4.0 3V4.1 11V5.0 14V1.1 89V3.0 5V4.0 2V1.1
  47V3.0 1V1.1 10V3.0 5V4.0 17V1.1 70V3.0 9V3.2 1V4.0 8V4.1 5V4.0 3V1.1 2V3.0 1V3.2 13V5.1 4V1.1
  2V5.1 2NA 2V1.1 1V5.0 3V1.1 1V7.0 1NA 4V1.1 7NA 1V1.1 1NA 1V1.1 20NA 1V1.1 44V5.1 1V1.1 7V3.0
  1V3.2 2V1.1 1V3.0 1V1.1 1V3.0 1V1.1 1V3.0 1V1.1 1V3.0 1V1.1 18V3.1 2V3.2 1V4.0 5V4.1 4V3.0
  1V1.1 12V3.0 1V1.1 66V3.0 1V1.1 12V3.0 1V1.1 41V5.1 1V3.0 2V3.2 2V3.0 4V1.1 53V3.2 2V1.1 2V3.2
  2V1.1 2V3.2 2V5.0 1V1.1 28V3.0 2V1.1 8V4.1 2V1.1 2V5.0 6V3.2 16V5.0 4V5.1 16V5.2 2V6.0 2V7.0
  8NA 1V1.1 38NA 2V1.1 7V11.0 1V1.1 39V11.0 1V1.1 1V3.0 1NA 2V7.0 2V6.1 1NA 1V2.0 17V4.1 1V2.0
  13V1.1 10V5.0 1V1.1 9V2.0 1V4.1 3NA 8V1.1 27NA 4V11.0 1V1.1 5NA 11V4.0 4V6.1 1V7.0 1V5.1 5V4.1
  1V1.1 1V4.0 9V5.1 5V1.1 1V6.3 1V14.0 1V4.1 1V1.1 1V6.0 1V1.1 26V5.1 5V1.1 19V3.0 3V4.0 3V4.1
  6V6.0 1V1.1 14V3.2 2V1.1 72V3.0 2V1.1 5V3.0 1V1.1 15V3.0 1V1.1 30V4.0 2V1.1 10V3.0 5V4.0 1V3.0
  14NA 1V3.0 30V4.0 3V3.0 27NA 2V4.0 3V4.1 30V5.1 18V3.0 49V3.2 1NA 14V5.0 59NA 2V11.0 3V5.2
  46NA 2V5.2 15NA 1V6.0 28NA 2V6.0 1NA 1V10.0 11NA 5V14.0 31NA 1V14.0 2NA 5V16.0 1V14.0 8V6.1
  1V7.0 1V6.1 11V7.0 6V8.0 2V14.0 1V9.0 8V13.0 10V14.0 11V11.0 1V9.0 15V8.0 1V6.1 27V7.0 1V5.2
  1V1.1 3V4.0 1V1.1 53V6.0 2V1.1 18V5.2 1V6.0 1V1.1 5V5.2 1V6.0 2V1.1 25V5.1 2V6.0 5V7.0 1V5.2
  2V5.0 2V4.1 1V5.0 2V7.0 1V1.1 3NA 1V1.1 8NA 2V1.1 2NA 2V1.1 22NA 1V1.1 7NA 1V1.1 1NA 3V1.1 4NA
  2V1.1 1V4.0 1V1.1 7NA 2V1.1 2NA 2V1.1 3V4.1 1NA 8V1.1 1NA 4V1.1 2NA 1V1.1 5NA 2V1.1 21V5.2
  1V10.0 2V11.0 1NA 2V4.0 1V1.1 1V4.0 1NA 1V1.1 6NA 4V1.1 2NA 2V1.1 22NA 1V1.1 7NA 1V1.1 2NA
  1V1.1 2NA 1V1.1 2NA 2V1.1 1NA 1V1.1 5NA 4V1.1 2NA 2V1.1 3NA 3V5.1 1NA 7V1.1 4NA 1V1.1 1NA
  7V1.1 15V5.1 1V11.0 1NA 10V1.1 3NA 1V1.1 7V4.0 1V1.1 1NA 1V1.1 3NA 1V1.1 22NA 1V1.1 7NA 1V1.1
  2NA 1V1.1 5NA 2V1.1 10NA 1V1.1 3NA 1V1.1 3NA 2V1.1 1NA 15V1.1 1V4.0 3NA 2V1.1 10V6.1 1V4.0 1NA
  7V8.0 1V10.0 6NA 1V1.1 3NA 1V1.1 8NA 2V1.1 2NA 2V1.1 22NA 1V1.1 7NA 1V1.1 2NA 1V4.0 1V1.1 4NA
  2V1.1 8V5.1 1NA 2V1.1 2NA 2V1.1 3NA 7V13.0 1V1.1 2NA 4V1.1 2NA 1V1.1 3V5.1 2NA 2V1.1 11V4.0
  1V6.0 6NA 10V1.1 2NA 1V1.1 6NA 3V1.1 3NA 1V1.1 4NA 3V1.1 2NA 1V1.1 1NA 1V1.1 2NA 3V1.1 2NA
  3V1.1 3NA 3V1.1 8V4.1 1V1.1 3NA 4V1.1 5NA 3V1.1 3NA 1V1.1 4NA 2V5.1 1NA 6V1.1 1NA 14V4.1 1V1.1
  12V4.0 8NA 5V7.0 1V1.1 3V11.0 1V1.1 8NA 1V1.1 3NA 1V1.1 23NA 1V1.1 10V7.0 1V1.1 5NA 2V14.0
  1V5.1 1V1.1 7NA 1V1.1 3NA 1V1.1 4NA 7V1.1 2NA 1V5.1 2V8.0 1NA 2V14.0 1NA 2V1.1 2V5.1 2NA 2V1.1
  10NA 7V12.0 1V5.1 8V9.0 1V7.0 1V1.1 2V11.0 1V1.1 8NA 1V1.1 3NA 1V1.1 23NA 1V1.1 10NA 1V1.1 5NA
  2V4.0 2V1.1 7NA 1V1.1 3NA 1V1.1 4NA 7V1.1 2NA 6V14.0 1V1.1 1NA 1V1.1 2V5.0 2NA 2V1.1 10NA
  1V5.0 2V15.0 1NA 12V10.0 1V7.0 1V1.1 2V13.0 1V1.1 8NA 1V1.1 3NA 1V1.1 23V6.0 1V1.1 16V6.0
  1V10.0 2V5.1 1V1.1 6V5.1 1NA 1V1.1 3NA 1V1.1 4V6.0 1V9.0 1NA 4V9.0 3V1.1 1V9.0 7V8.0 1V1.1
  2V5.1 2NA 2V1.1 10V5.1 6V9.0 3V5.1 7NA 1V13.0 1V3.0 2NA 1V3.0 18NA 3V3.0 24NA 1V3.0 9NA 1V3.0
  1NA 2V3.0 7NA 3V3.0 1NA 4V3.0 6NA 1V3.0 1NA 1V3.0 8NA 6V7.0 10NA 2V3.0 3NA 12V1.1 58NA 4V1.1
  29NA 37V1.1 2NA 1V1.1 1NA 1V12.0 1V1.1 2V12.0 1V1.1 1NA 1V12.0 1V1.1 1V12.0 6V1.1 4V12.0 1V1.1
  7V12.0 1V1.1 3NA 1V1.1 1NA 1V1.1 1V12.0 2V1.1 2V12.0 1V1.1 13V12.0 1V1.1 3NA 2V1.1 5NA 1V1.1
  1NA 1V1.1 6V15.0 1NA 1V1.1 10NA 2V1.1 2V6.1 2NA 32V2.0 72NA 1V2.0 33V3.0 1V5.1 2NA 4V2.0
  27V6.0 4V2.0 6V3.0 1V2.0 1NA 1V2.0 21V3.0 3V2.0 7V3.0 1V2.0 1V3.0 3NA 1V3.0 15NA 1V5.1 1V3.0
  1V4.1 2V5.1 3V5.2 4V6.0 2NA 37V3.0 34V5.1 1V3.0 5V5.1 1V3.0 2V5.1 1V3.0 7V5.1 3V3.0 4V5.1
  6V3.0 26V5.1 64V5.2 4V5.1 2V1.1 38NA 1V6.1 1NA 5V6.1 1NA 2V1.1 39V3.2 2V4.1 2V1.1 1V4.1 1V6.1
  3V1.1 90V5.2 5V1.1 68V5.2 5V1.1 82V5.2 6V3.0 7V4.1 1V3.0 63V4.1 1V3.0 1NA 1V3.0 4NA 2V3.0 7NA
  1V3.0 1NA 1V3.0 4NA 2V3.0 39V4.1 1V3.0 1NA 1V3.0 4NA 2V3.0 31V4.1 1V3.0 1NA 1V3.0 4NA 2V3.0
  7NA 1V3.0 1NA 1V3.0 4NA 2V3.0 7V4.1 1V3.0 7NA 1V3.0 23V4.1 1V3.0 31V4.1 1V3.0 1NA 1V3.0 4NA
  2V3.0 7V4.1 1V3.0 39V4.1 1V3.0 19NA 2V6.0 2V4.1 2V3.0 28NA 3V4.1 26NA 6V3.0 85V8.0 1NA 2V8.0
  6NA 2V5.2 1V3.0 630V5.2 9V3.0 29NA 3V3.0 81V7.0 8NA 7V3.2 13V14.0 1V3.2 7V14.0 1NA 9V14.0
  1V3.2 23NA 9V3.2 20NA 12V3.2 13NA 1V3.2 3NA 1V3.2 2NA 12V3.0 93V4.0 1NA 2V3.0 10NA 6V4.0 10NA
  6V3.0 15V14.0 1V3.0 10NA 6V3.0 88V11.0 1NA 7V3.0 42V5.1 1NA 5V5.2 70NA 10V4.0 29V7.0 2NA 1V4.0
  12NA 4V4.0 12NA 4V4.0 1NA 3V4.0 42NA 2V4.0 5NA 11V4.1 42V5.2 2NA 4V4.1 26NA 6V4.1 10V5.2 1NA
  3V4.1 2V4.0 32V4.1 28NA 2V4.1 2V5.2 63NA 1V5.2 29NA 2V5.2 11NA 6V5.2 10NA 6V5.2 14NA 2V7.0
  15V13.0 2V14.0 14NA 49V5.0 76V14.0 1NA 1V16.0 2V5.0 45V14.0 2V16.0 1V5.1 43V6.1 3V5.1 12V6.1
  6V6.0 52NA 8V6.0 4V5.1 56NA 3V5.1 15NA 3V5.1 51V9.0 9V16.0 2NA 5V11.0 43NA 2V11.0 3V6.1 8NA
  8V5.2 35V6.1 4V10.0 1V7.0 2V12.0 1NA 5V4.0 108V4.1 88V5.0 7V5.1 28V7.0 15V10.0 4V14.0 1V9.0
  1V6.0 1V5.2 1V5.0 2V1.1 155V2.0 1V5.1 4V1.1 90V5.1 6V1.1 22NA 2V1.1 6NA 2V1.1 38NA 2V1.1 6NA
  2V1.1 8NA 1V1.1 1NA 1V1.1 1NA 1V1.1 1NA 1V1.1 31NA 2V1.1 53NA 1V1.1 15NA 1V1.1 14NA 2V1.1 6NA
  1V1.1 19NA 2V1.1 3NA 1V1.1 9NA 1V1.1 47V3.0 1V1.1 23V3.2 1V3.0 6V3.2 5V4.0 2V4.1 2V3.2 1V4.1
  7V3.2 5V5.1 1NA 1V6.3 4V1.1 7V3.2 1NA 2V1.1 27NA 1V4.1 5V6.0 8NA 3V1.1 11V2.0 1V2.1 1V3.0
  3V3.2 2V4.1 4V5.2 3V6.0 1V6.2 1V7.0 3V8.0 1V10.0 1V14.0 1NA 15V1.1 18V3.0 2V3.2 7V4.1 1V5.0
  4V5.1 1NA 15V1.1 57V3.0 2V4.0 1V4.1 1V3.2 15V4.1 1V5.0 2V5.1 1V5.2 3V1.1 48V3.0 1V5.0 1V5.1
  4V5.2 1V8.0 2NA 4V1.1 91V3.0 9V3.2 12V1.1 242V3.2 14V1.1 1V3.0 1V1.1 121V3.0 1V3.2 1V3.0
  30V3.2 52V4.0 2V4.1 11V5.0 12V5.2 1V6.0 11V7.0 7V9.0 4V10.0 1V1.1 37V3.0 2V16.0 3NA 22V1.1
  11NA 21V1.1 139V3.2 20V4.0 1V1.1 150V3.2 10V1.1 80V3.0 8V3.2 8V1.1 20V4.0 2V3.2 2V4.1 1V3.0
  1V1.1 86V3.0 2V3.2 12V4.1 2V3.2 10V4.0 8V4.1 11V5.1 1V5.2 2V4.0 2V4.1 16V5.0 1V5.1 10V5.2
  3V5.1 4V5.2 10V6.0 1V5.2 19V6.0 1V5.2 1V6.0 4V5.2 24V7.0 1V1.1 4V6.0 1V1.1 4V6.0 2V1.1 28V6.0
  1V1.1 35V6.0 1V1.1 1V6.0 1V1.1 4V6.0 3V1.1 1V5.2 1V1.1 7V6.0 2V1.1 7V3.2 14V1.1 31V6.0 3V1.1
  24V6.0 1V1.1 14V6.0 1V4.1 7V5.0 4V6.1 1V5.1 1V6.1 1V6.0 2V3.2 28V5.1 4V3.2 16V3.0 256V3.2
  512V4.0 14V4.1 6V5.0 7V5.1 5V5.0 4V5.1 41V7.0 3V5.1 5V5.2 5V7.0 26NA 2V7.0 32NA 1V13.0 1V7.0
  34V11.0 3V7.0 12V12.0 1V7.0 8V10.0 1V11.0 25V8.0 4V11.0 15V12.0 1V4.1 47V14.0 1V4.1 47V14.0
  1V5.0 13V5.1 3V5.2 1V5.1 3V5.0 4V5.1 6V5.2 2V4.1 107V5.2 7V6.1 2NA 5V4.1 45NA 1V6.1 1NA 5V6.1
  1NA 2V4.1 54V6.1 2NA 7V4.1 1V6.0 1NA 14V6.0 1V4.1 23NA 9V4.1 7NA 1V4.1 7NA 1V4.1 7NA 1V4.1 7NA
  1V4.1 7NA 1V4.1 7NA 1V4.1 7NA 1V4.1 7NA 1V5.1 32V4.1 24V5.1 4V4.1 2V5.1 19V5.2 1V6.1 10V7.0
  7V9.0 2V10.0 5V11.0 5V12.0 1V13.0 3V14.0 11NA 34V3.0 26NA 1V3.0 89NA 12V3.0 214NA 26V3.0
  12V15.1 4V1.1 56V3.0 3V3.2 3V3.0 1V1.1 1NA 1V1.1 84V3.2 2NA 2V1.1 6V3.2 2V1.1 94V3.2 1NA 5V1.1
  40V5.1 1V10.0 1V11.0 1NA 1V1.1 94NA 1V1.1 16V3.0 24V6.0 3V13.0 5V4.1 16V5.1 20V16.0 2NA 9V15.1
  1V3.2 16V1.1 29V4.0 2NA 1V1.1 36V5.2 12V4.0 1V3.2 15V1.1 28V4.0 2V4.1 1V1.1 50V3.2 15V1.1
  12V4.0 4V1.1 47V12.1 1V1.1 119V4.0 4V1.1 99V4.0 2V1.1 31V4.0 1V3.0 6582V13.0 10V4.0 64V1.1
  20902V4.1 22V5.1 8V5.2 8V6.1 1V8.0 9V10.0 21V11.0 5V13.0 13V14.0 3V3.0 1165NA 3V3.0 18V3.2
  2V3.0 16V3.2 1V3.0 12V3.2 1V3.0 3V3.2 1V3.0 1NA 9V5.2 48V5.1 300NA 20V5.1 32V6.0 2V5.1 18V6.1
  8V5.1 28V7.0 6V8.0 1V6.1 1V5.2 88NA 8V4.1 23V5.0 4V5.1 5V5.0 2V5.1 107V6.0 2V8.0 1V6.0 2V6.1
  2V7.0 12V6.0 10V6.1 1V7.0 3V9.0 1V11.0 1V7.0 2V8.0 6V11.0 2V12.0 6V14.0 2V12.0 5V13.0 4V16.0
  3NA 2V14.0 2NA 1V14.0 1NA 1V14.0 5V16.0 3NA 21V14.0 3V13.0 2V7.0 1V6.1 2V6.0 1V5.1 5V4.1
  44V13.0 1NA 3V5.2 10NA 6V5.0 56NA 8V5.1 69V9.0 1NA 8V5.1 12NA 6V5.2 28V8.0 2V11.0 2V5.1 84NA
  11V5.1 1V5.2 29NA 3V5.2 78NA 1V5.2 11NA 4V5.2 2V7.0 31NA 1V5.1 55NA 9V5.1 14NA 2V5.1 10NA
  2V5.1 4V5.2 28V7.0 4V5.2 67NA 24V5.2 5V6.1 23NA 10V6.0 6NA 2V6.0 6NA 2V6.0 6NA 9V6.0 7NA 1V6.0
  7NA 1V7.0 48V8.0 4V7.0 2V12.0 2V13.0 4NA 4V8.0 80V5.2 46NA 2V5.2 10NA 6V2.0 11172NA 12V5.2
  23NA 4V5.2 49NA 4V2.0 2048V1.1 6702V6.1 2V3.2 59V5.2 3NA 2V4.1 106NA 38V1.1 7NA 12V1.1 5NA
  5V3.0 1V1.1 25NA 1V1.1 5NA 1V1.1 1NA 1V1.1 2NA 1V1.1 2NA 1V1.1 108V6.0 16V14.0 1NA 16V1.1
  365V14.0 16V1.1 64NA 2V1.1 54NA 7V14.0 1V3.1 32V1.1 12V3.2 1V4.0 1V14.0 2V3.2 16V4.1 10NA
  6V1.1 4V5.1 3V7.0 7V8.0 2V1.1 21V3.2 2V4.0 2V1.1 10NA 1V1.1 19NA 1V1.1 4NA 4V1.1 3V3.2 1V1.1
  1NA 1V1.1 135NA 2V1.1 1NA 1V1.1 94V3.2 2V1.1 94NA 3V1.1 6NA 2V1.1 6NA 2V1.1 6NA 2V1.1 3NA
  3V1.1 7NA 1V1.1 7NA 10V3.0 3V2.1 1V1.1 3V4.0 12NA 1V4.0 26NA 1V4.0 19NA 1V4.0 2NA 1V4.0 15NA
  2V4.0 14NA 34V4.0 123NA 5V4.0 3NA 4V4.0 45NA 3V4.0 9V4.1 75V7.0 2V9.0 2NA 1V5.1 12V13.0 1NA
  3V7.0 1NA 47V5.1 46NA 130V5.1 29NA 3V5.1 49NA 15V7.0 28NA 4V3.1 31V7.0 1V3.1 4NA 9V10.0 3V3.1
  27NA 5V7.0 43NA 5V4.0 30NA 1V4.0 1V4.1 36NA 4V4.1 14NA 42V3.1 38V4.0 2V3.1 38V4.0 80NA 2V4.0
  10NA 6V9.0 36NA 4V9.0 36NA 4V7.0 40NA 8V7.0 52NA 11V7.0 1V14.0 11NA 1V14.0 15NA 1V14.0 7NA
  1V14.0 2NA 1V14.0 11NA 1V14.0 15NA 1V14.0 7NA 1V14.0 2NA 3V16.0 52NA 12V7.0 311NA 9V7.0 22NA
  10V7.0 8NA 24V14.0 6NA 1V14.0 42NA 1V14.0 9NA 69V4.0 6NA 2V4.0 1NA 1V4.0 44NA 1V4.0 2NA 3V4.0
  1NA 2V4.0 1V5.2 22NA 1V5.2 9V7.0 63NA 8V7.0 9NA 48V8.0 19NA 1V8.0 2NA 5V8.0 5V5.0 26V5.2 2NA
  3V5.0 1V5.1 26NA 5V5.1 1NA 64V6.1 56NA 4V8.0 2V6.1 2V8.0 16NA 2V8.0 46V4.1 4NA 1V4.1 2NA 5V4.1
  8NA 1V4.1 3NA 1V4.1 27V11.0 2NA 2V4.1 3NA 4V4.1 9V11.0 1NA 7V4.1 9NA 7V5.2 32V7.0 32NA 32V7.0
  39NA 4V7.0 12NA 9V5.2 54NA 3V5.2 29NA 2V5.2 27NA 5V5.2 8V7.0 18NA 7V7.0 4NA 12V7.0 7NA 80V5.2
  73NA 55V8.0 51NA 13V8.0 51NA 7V8.0 6V11.0 40NA 8V11.0 10NA 6V16.0 38NA 3V16.0 29NA 8V16.0 2NA
  208V5.2 31NA 1V13.0 42NA 1V13.0 3NA 2V13.0 2NA 16V16.0 3NA 55V16.0 1V15.0 3V11.0 40NA 8V11.0
  42NA 22V14.0 26NA 38V13.0 28NA 20V12.0 23NA 9V6.0 78NA 4V6.0 30V14.0 6NA 9V7.0 1V5.2 66V14.0
  1NA 10V11.0 1NA 2V6.1 25NA 7V6.1 10NA 6V6.1 53NA 1V6.1 14V11.0 3V13.0 1NA 8V7.0 39NA 9V6.1
  73V8.0 4V7.0 1V13.0 2V6.1 10V7.0 1V8.0 5NA 1V7.0 20NA 11V7.0 18NA 1V7.0 43V9.0 1V15.0 3NA
  62V8.0 7NA 1V8.0 1NA 1V8.0 4NA 1V8.0 15NA 1V8.0 11NA 6V7.0 59NA 5V7.0 10NA 6V8.0 1V7.0 3NA
  1V7.0 8NA 2V7.0 2NA 2V7.0 22NA 1V7.0 7NA 1V7.0 2NA 1V7.0 5NA 1V11.0 1V7.0 9NA 2V7.0 2NA 2V7.0
  3NA 2V8.0 1NA 6V7.0 1NA 5V7.0 7NA 2V7.0 7NA 3V7.0 5NA 11V16.0 10NA 1V16.0 1NA 2V16.0 1NA
  1V16.0 38NA 1V16.0 10NA 1V16.0 1NA 2V16.0 1NA 1V16.0 4NA 1V16.0 10NA 1V16.0 2NA 8V16.0 2NA
  29V9.0 90V13.0 1V9.0 1NA 1V9.0 1V11.0 1V12.0 1V13.0 2NA 30V7.0 72NA 8V7.0 10NA 166V7.0 54NA
  2V7.0 18V8.0 20NA 34V7.0 69NA 11V7.0 10NA 6V9.0 13NA 19V6.1 56V12.0 1V14.0 1NA 6V6.1 10NA
  6V16.0 20NA 28V8.0 26V11.0 1NA 2V8.0 15NA 4V8.0 16V14.0 7NA 185V11.0 60NA 100V7.0 83NA 12V7.0
  1V13.0 7NA 2V13.0 1NA 2V13.0 8NA 1V13.0 2NA 1V13.0 30NA 1V13.0 2NA 2V13.0 12NA 9V13.0 10NA
  70V12.0 8NA 2V12.0 46NA 2V12.0 11NA 27V10.0 72NA 8V10.0 52V12.0 2V10.0 23V11.0 1V10.0 5NA
  13V14.0 16V7.0 57NA 7V15.0 10NA 182V16.0 34NA 14V16.0 10NA 6V9.0 9NA 1V9.0 45NA 1V9.0 14NA
  10V9.0 29NA 3V9.0 32NA 2V9.0 22NA 1V9.0 14NA 73V10.0 7NA 1V10.0 2NA 1V10.0 44NA 3V10.0 1NA
  1V10.0 2NA 1V10.0 9NA 8V10.0 10NA 6V11.0 6NA 1V11.0 2NA 1V11.0 37NA 1V11.0 2NA 1V11.0 6NA
  7V11.0 10NA 310V11.0 25NA 7V15.0 17NA 1V15.0 41NA 3V15.0 28V16.0 1NA 85V13.0 1NA 15V12.0 50NA
  13V12.0 1V5.0 879V7.0 42V8.0 1NA 102V5.0 99V7.0 12NA 1V5.0 4V7.0 1NA 11V8.0 196NA 2636V14.0
  99NA 13V5.2 1071V15.0 1V12.0 9V15.0 29NA 10V16.0 3995NA 5V8.0 583NA 6841V16.0 58NA 1734V6.0
  569NA 7V7.0 31NA 1V7.0 10NA 4V7.0 2V14.0 79NA 1V14.0 10NA 6V7.0 30NA 2V7.0 6NA 10V7.0 70NA
  10V7.0 10NA 1V7.0 7NA 1V7.0 21NA 5V7.0 19NA 432V16.0 58NA 198V11.0 91NA 101V6.1 69V12.0 6NA
  4V12.0 1V6.1 47V12.0 9NA 7V6.1 17NA 64V9.0 1V10.0 1V12.0 2V13.0 1NA 11V13.0 2NA 14V9.0
  6125V11.0 5V12.0 6NA 8V9.0 755V13.0 483NA 41V16.0 1V13.0 9NA 8935V14.0 4NA 1V14.0 7NA 1V14.0
  2NA 1V6.0 2V10.0 285V14.0 4NA 15V15.0 1NA 29V12.0 3NA 2V15.0 1NA 14V12.0 4NA 8V10.0 396NA
  2308V7.0 107NA 5V7.0 13NA 3V7.0 9NA 7V7.0 10NA 2V7.0 8NA 3932V16.0 250NA 6V16.0 436NA 76V14.0
  46NA 2V14.0 23NA 9V14.0 116NA 60V3.1 246NA 10V3.1 39NA 2V5.1 1V3.1 180V8.0 11V14.0 2NA 21V4.1
  70NA 122V15.0 20NA 12V11.0 20NA 12V4.0 87NA 9V5.0 18V11.0 7NA 135V3.1 85NA 1V3.1 71NA 1V3.1
  2NA 2V3.1 1NA 2V3.1 2NA 2V3.1 4NA 1V3.1 12NA 1V3.1 1NA 1V3.1 4V4.0 1V3.1 2NA 1V3.1 65NA 1V3.1
  4NA 2V3.1 8NA 1V3.1 7NA 1V3.1 28NA 1V3.1 4NA 1V3.1 5NA 1V3.1 1NA 3V3.1 7NA 1V3.1 338V4.1 2NA
  2V3.1 290V5.0 2NA 2V3.1 50V8.0 652NA 15V8.0 5NA 1V8.0 15NA 1104V14.0 31NA 6V15.0 6NA 213V9.0
  7NA 1V9.0 17NA 2V9.0 7NA 1V9.0 2NA 1V9.0 5NA 5V15.0 62NA 33V15.0 1NA 112V12.0 45NA 3V12.0 14NA
  2V12.0 10NA 4V12.0 2NA 320V14.0 31NA 17V12.0 58NA 5V12.0 1NA 464V15.0 42NA 214V16.0 43NA
  4V16.0 1NA 480V14.0 7NA 1V14.0 4NA 1V14.0 2NA 1V14.0 15NA 1V7.0 197NA 2V7.0 16NA 41V9.0
  75V12.0 1NA 4V9.0 10NA 4V9.0 2NA 785V11.0 68NA 76V12.0 61NA 194V6.1 4NA 1V6.1 27NA 1V6.1 2NA
  1V6.1 1NA 2V6.1 1NA 1V6.1 10NA 1V6.1 4NA 1V6.1 1NA 1V6.1 1NA 6V6.1 1NA 4V6.1 1NA 1V6.1 1NA
  1V6.1 1NA 1V6.1 3NA 1V6.1 2NA 1V6.1 1NA 2V6.1 1NA 1V6.1 1NA 1V6.1 1NA 1V6.1 1NA 1V6.1 1NA
  1V6.1 2NA 1V6.1 1NA 2V6.1 4NA 1V6.1 7NA 1V6.1 4NA 1V6.1 4NA 1V6.1 1NA 1V6.1 10NA 1V6.1 17NA
  5V6.1 3NA 1V6.1 5NA 1V6.1 17NA 52V6.1 2NA 270V5.1 44NA 4V5.1 100NA 12V6.0 15NA 2V6.0 14V7.0
  1NA 1V6.0 15NA 1V6.0 15V7.0 22NA 10V5.2 11V7.0 2V13.0 3V5.2 31V11.0 1V6.0 1V5.2 1V6.0 11V5.2
  1V6.0 1V5.2 1V6.0 2V5.2 1V6.0 3V5.2 1V6.0 3V5.2 5V6.0 8V5.2 1V6.0 7V5.2 1V6.0 10V6.1 2V12.0
  1V13.0 3V6.0 9V5.2 1V6.0 1V5.2 2V6.0 2V5.2 1V6.0 10V5.2 4V6.0 2V5.2 1V6.0 10V9.0 18V13.0 1NA
  56V6.0 26V5.2 1V6.0 2NA 13V5.2 34V6.0 9V9.0 1NA 4V5.2 9NA 7V6.0 2NA 14V10.0 6NA 154V6.0 33V7.0
  12V8.0 3V6.0 6V7.0 1V6.0 70V7.0 1V8.0 2V6.0 20V7.0 12V6.0 37V7.0 1V6.0 5V7.0 4V8.0 5V7.0
  12V6.0 17V7.0 7V8.0 8V6.0 63V7.0 1V6.0 1V7.0 1V6.0 182V7.0 1V6.0 4V7.0 2V8.0 1V6.0 62V7.0
  2V6.1 4V7.0 7V8.0 5V6.0 24V7.0 18V9.0 1V7.0 41V9.0 1V7.0 86V6.0 5V6.1 1V6.0 16V6.1 1V6.0 3V6.1
  1V6.0 1V6.1 1V6.0 1V6.1 1V6.0 1V6.1 1V6.0 3V6.1 1V6.0 6V6.1 2V6.0 4V6.1 1V6.0 1V6.1 2V6.0
  4V6.1 1V6.0 12V7.0 2V8.0 2V6.0 11V7.0 48V6.0 70V7.0 10V8.0 1V9.0 2V10.0 2V12.0 1V13.0 2NA
  4V15.0 1V14.0 3V7.0 13NA 3V7.0 4V9.0 3V10.0 2V11.0 1V12.0 1V13.0 2NA 3V6.0 116V15.0 3NA 4V15.0
  5V7.0 85V11.0 4V15.0 1NA 6V12.0 12NA 4V14.0 1NA 15V7.0 12NA 4V7.0 56NA 8V7.0 10NA 6V7.0 40NA
  8V7.0 30NA 2V13.0 2V16.0 10NA 4V16.0 2NA 62V10.0 12V13.0 1V12.0 3V8.0 9V9.0 6V10.0 1V9.0
  8V10.0 8V9.0 1V10.0 2V9.0 12V12.0 1V9.0 12V10.0 1V11.0 3V9.0 15V10.0 13V11.0 5V12.0 1V13.0
  1V11.0 4V13.0 2V14.0 1V11.0 1V12.0 1V11.0 4V8.0 5V9.0 13V10.0 6V11.0 11V13.0 2V12.0 6V13.0
  3V12.0 2V11.0 10V12.0 6V8.0 1V11.0 2V12.0 8V13.0 1V14.0 1V12.0 3V10.0 23V11.0 25V12.0 84NA
  12V11.0 14NA 2V12.0 4V13.0 1V15.0 3V12.0 3V14.0 2NA 3V12.0 3V13.0 4V15.0 2V16.0 1NA 5V16.0
  1V12.0 6V13.0 19V14.0 4V15.0 3V13.0 7V14.0 4V15.0 3V16.0 1V15.0 1V13.0 3V14.0 3V16.0 1NA
  7V15.0 2V13.0 7V14.0 3V15.0 2V16.0 1NA 2V16.0 1V14.0 8V15.0 1V16.0 1NA 6V14.0 7V15.0 2NA
  7V13.0 147NA 1V13.0 55V16.0 37V13.0 10NA 1028V2.0 2V3.1 42711V13.0 7V14.0 2NA 32V5.2 4149V14.0
  4V15.0 1NA 6V6.0 222NA 2V8.0 5762NA 14V10.0 7473NA 15V15.1 622NA 2466V3.1 542NA 1504V2.0
  2V13.0 4939NA 5V15.0 4192NA 56398V2.0 2NA 65534V2.0 2NA 65534V2.0 2NA 65534V2.0 2NA 65534V2.0
  2NA 65534V2.0 2NA 65534V2.0 2NA 65534V2.0 2NA 65534V2.0 2NA 65534V2.0 2NA 65534V2.0 2NA 1V3.1
  1NA 30V3.1 96NA 128V4.0 240NA 65038V2.0"

/-- The runs of one version, in order. -/
def runs : List Run := Run.parse table

/-- The versions that assigned characters, in order. -/
def versions : List String := [
  "V1.1", "V2.0", "V2.1", "V3.0", "V3.1", "V3.2", "V4.0", "V4.1", "V5.0", "V5.1", "V5.2", "V6.0",
  "V6.1", "V6.2", "V6.3", "V7.0", "V8.0", "V9.0", "V10.0", "V11.0", "V12.0", "V12.1", "V13.0",
  "V14.0", "V15.0", "V15.1", "V16.0"]

/-- The versions up to a given one, named like `6.0` or `v60`. -/
def upTo? (name : String) : Option (List String) := do
  let version ← versions.find? fun v => v == "V" ++ name || v == name.toUpper || v.toLower.replace "." "" == name
  return versions.take (versions.idxOf version + 1)

/-- The characters assigned in one of the given versions. -/
def set (ages : List String) : CharSet := Run.select (ages.contains ·) runs

end Descent.Unicode.Age
