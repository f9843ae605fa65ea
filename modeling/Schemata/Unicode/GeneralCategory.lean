import Schemata.Unicode.Runs

/-!
# General categories

The general category of every code point of Unicode 15, as runs of equal category.
-/

namespace Schemata.Unicode

/-- The two-letter categories in code point order, each with the length of its run. -/
def generalCategoryText : List String := [
  "Cc 32 Zs 1 Po 3 Sc 1 Po 3 Ps 1 Pe 1 Po 1 Sm 1 Po 1 Pd 1 Po 2 Nd 10 Po 2 Sm 3 Po 2 Lu 26 Ps 1",
  "Po 1 Pe 1 Sk 1 Pc 1 Sk 1 Ll 26 Ps 1 Sm 1 Pe 1 Sm 1 Cc 33 Zs 1 Po 1 Sc 4 So 1 Po 1 Sk 1 So 1",
  "Lo 1 Pi 1 Sm 1 Cf 1 So 1 Sk 1 So 1 Sm 1 No 2 Sk 1 Ll 1 Po 2 Sk 1 No 1 Lo 1 Pf 1 No 3 Po 1 Lu",
  "23 Sm 1 Lu 7 Ll 24 Sm 1 Ll 8 Lu 1 Ll 1 Lu 1 Ll 1 Lu 1 Ll 1 Lu 1 Ll 1 Lu 1 Ll 1 Lu 1 Ll 1 Lu",
  "1 Ll 1 Lu 1 Ll 1 Lu 1 Ll 1 Lu 1 Ll 1 Lu 1 Ll 1 Lu 1 Ll 1 Lu 1 Ll 1 Lu 1 Ll 1 Lu 1 Ll 1 Lu 1",
  "Ll 1 Lu 1 Ll 1 Lu 1 Ll 1 Lu 1 Ll 1 Lu 1 Ll 1 Lu 1 Ll 1 Lu 1 Ll 1 Lu 1 Ll 1 Lu 1 Ll 1 Lu 1 Ll",
  "1 Lu 1 Ll 1 Lu 1 Ll 1 Lu 1 Ll 2 Lu 1 Ll 1 Lu 1 Ll 1 Lu 1 Ll 1 Lu 1 Ll 1 Lu 1 Ll 1 Lu 1 Ll 1",
  "Lu 1 Ll 1 Lu 1 Ll 2 Lu 1 Ll 1 Lu 1 Ll 1 Lu 1 Ll 1 Lu 1 Ll 1 Lu 1 Ll 1 Lu 1 Ll 1 Lu 1 Ll 1 Lu",
  "1 Ll 1 Lu 1 Ll 1 Lu 1 Ll 1 Lu 1 Ll 1 Lu 1 Ll 1 Lu 1 Ll 1 Lu 1 Ll 1 Lu 1 Ll 1 Lu 1 Ll 1 Lu 1",
  "Ll 1 Lu 1 Ll 1 Lu 1 Ll 1 Lu 1 Ll 1 Lu 1 Ll 1 Lu 1 Ll 1 Lu 1 Ll 1 Lu 2 Ll 1 Lu 1 Ll 1 Lu 1 Ll",
  "3 Lu 2 Ll 1 Lu 1 Ll 1 Lu 2 Ll 1 Lu 3 Ll 2 Lu 4 Ll 1 Lu 2 Ll 1 Lu 3 Ll 3 Lu 2 Ll 1 Lu 2 Ll 1",
  "Lu 1 Ll 1 Lu 1 Ll 1 Lu 2 Ll 1 Lu 1 Ll 2 Lu 1 Ll 1 Lu 2 Ll 1 Lu 3 Ll 1 Lu 1 Ll 1 Lu 2 Ll 2 Lo",
  "1 Lu 1 Ll 3 Lo 4 Lu 1 Lt 1 Ll 1 Lu 1 Lt 1 Ll 1 Lu 1 Lt 1 Ll 1 Lu 1 Ll 1 Lu 1 Ll 1 Lu 1 Ll 1",
  "Lu 1 Ll 1 Lu 1 Ll 1 Lu 1 Ll 1 Lu 1 Ll 1 Lu 1 Ll 2 Lu 1 Ll 1 Lu 1 Ll 1 Lu 1 Ll 1 Lu 1 Ll 1 Lu",
  "1 Ll 1 Lu 1 Ll 1 Lu 1 Ll 1 Lu 1 Ll 1 Lu 1 Ll 2 Lu 1 Lt 1 Ll 1 Lu 1 Ll 1 Lu 3 Ll 1 Lu 1 Ll 1",
  "Lu 1 Ll 1 Lu 1 Ll 1 Lu 1 Ll 1 Lu 1 Ll 1 Lu 1 Ll 1 Lu 1 Ll 1 Lu 1 Ll 1 Lu 1 Ll 1 Lu 1 Ll 1 Lu",
  "1 Ll 1 Lu 1 Ll 1 Lu 1 Ll 1 Lu 1 Ll 1 Lu 1 Ll 1 Lu 1 Ll 1 Lu 1 Ll 1 Lu 1 Ll 1 Lu 1 Ll 1 Lu 1",
  "Ll 1 Lu 1 Ll 1 Lu 1 Ll 1 Lu 1 Ll 1 Lu 1 Ll 1 Lu 1 Ll 1 Lu 1 Ll 1 Lu 1 Ll 1 Lu 1 Ll 1 Lu 1 Ll",
  "7 Lu 2 Ll 1 Lu 2 Ll 2 Lu 1 Ll 1 Lu 4 Ll 1 Lu 1 Ll 1 Lu 1 Ll 1 Lu 1 Ll 1 Lu 1 Ll 69 Lo 1 Ll",
  "27 Lm 18 Sk 4 Lm 12 Sk 14 Lm 5 Sk 7 Lm 1 Sk 1 Lm 1 Sk 17 Mn 112 Lu 1 Ll 1 Lu 1 Ll 1 Lm 1 Sk",
  "1 Lu 1 Ll 1 Cn 2 Lm 1 Ll 3 Po 1 Lu 1 Cn 4 Sk 2 Lu 1 Po 1 Lu 3 Cn 1 Lu 1 Cn 1 Lu 2 Ll 1 Lu 17",
  "Cn 1 Lu 9 Ll 35 Lu 1 Ll 2 Lu 3 Ll 3 Lu 1 Ll 1 Lu 1 Ll 1 Lu 1 Ll 1 Lu 1 Ll 1 Lu 1 Ll 1 Lu 1",
  "Ll 1 Lu 1 Ll 1 Lu 1 Ll 1 Lu 1 Ll 1 Lu 1 Ll 1 Lu 1 Ll 1 Lu 1 Ll 5 Lu 1 Ll 1 Sm 1 Lu 1 Ll 1 Lu",
  "2 Ll 2 Lu 51 Ll 48 Lu 1 Ll 1 Lu 1 Ll 1 Lu 1 Ll 1 Lu 1 Ll 1 Lu 1 Ll 1 Lu 1 Ll 1 Lu 1 Ll 1 Lu",
  "1 Ll 1 Lu 1 Ll 1 Lu 1 Ll 1 Lu 1 Ll 1 Lu 1 Ll 1 Lu 1 Ll 1 Lu 1 Ll 1 Lu 1 Ll 1 Lu 1 Ll 1 Lu 1",
  "Ll 1 So 1 Mn 5 Me 2 Lu 1 Ll 1 Lu 1 Ll 1 Lu 1 Ll 1 Lu 1 Ll 1 Lu 1 Ll 1 Lu 1 Ll 1 Lu 1 Ll 1 Lu",
  "1 Ll 1 Lu 1 Ll 1 Lu 1 Ll 1 Lu 1 Ll 1 Lu 1 Ll 1 Lu 1 Ll 1 Lu 1 Ll 1 Lu 1 Ll 1 Lu 1 Ll 1 Lu 1",
  "Ll 1 Lu 1 Ll 1 Lu 1 Ll 1 Lu 1 Ll 1 Lu 1 Ll 1 Lu 1 Ll 1 Lu 1 Ll 1 Lu 1 Ll 1 Lu 1 Ll 1 Lu 1 Ll",
  "1 Lu 1 Ll 1 Lu 2 Ll 1 Lu 1 Ll 1 Lu 1 Ll 1 Lu 1 Ll 1 Lu 1 Ll 1 Lu 1 Ll 1 Lu 1 Ll 2 Lu 1 Ll 1",
  "Lu 1 Ll 1 Lu 1 Ll 1 Lu 1 Ll 1 Lu 1 Ll 1 Lu 1 Ll 1 Lu 1 Ll 1 Lu 1 Ll 1 Lu 1 Ll 1 Lu 1 Ll 1 Lu",
  "1 Ll 1 Lu 1 Ll 1 Lu 1 Ll 1 Lu 1 Ll 1 Lu 1 Ll 1 Lu 1 Ll 1 Lu 1 Ll 1 Lu 1 Ll 1 Lu 1 Ll 1 Lu 1",
  "Ll 1 Lu 1 Ll 1 Lu 1 Ll 1 Lu 1 Ll 1 Lu 1 Ll 1 Lu 1 Ll 1 Lu 1 Ll 1 Lu 1 Ll 1 Lu 1 Ll 1 Lu 1 Ll",
  "1 Lu 1 Ll 1 Lu 1 Ll 1 Lu 1 Ll 1 Lu 1 Ll 1 Lu 1 Ll 1 Lu 1 Ll 1 Lu 1 Ll 1 Lu 1 Ll 1 Lu 1 Ll 1",
  "Lu 1 Ll 1 Lu 1 Ll 1 Lu 1 Ll 1 Lu 1 Ll 1 Lu 1 Ll 1 Lu 1 Ll 1 Lu 1 Ll 1 Lu 1 Ll 1 Lu 1 Ll 1 Lu",
  "1 Ll 1 Cn 1 Lu 38 Cn 2 Lm 1 Po 6 Ll 41 Po 1 Pd 1 Cn 2 So 2 Sc 1 Cn 1 Mn 45 Pd 1 Mn 1 Po 1 Mn",
  "2 Po 1 Mn 2 Po 1 Mn 1 Cn 8 Lo 27 Cn 4 Lo 4 Po 2 Cn 11 Cf 6 Sm 3 Po 2 Sc 1 Po 2 So 2 Mn 11 Po",
  "1 Cf 1 Po 3 Lo 32 Lm 1 Lo 10 Mn 21 Nd 10 Po 4 Lo 2 Mn 1 Lo 99 Po 1 Lo 1 Mn 7 Cf 1 So 1 Mn 6",
  "Lm 2 Mn 2 So 1 Mn 4 Lo 2 Nd 10 Lo 3 So 2 Lo 1 Po 14 Cn 1 Cf 1 Lo 1 Mn 1 Lo 30 Mn 27 Cn 2 Lo",
  "89 Mn 11 Lo 1 Cn 14 Nd 10 Lo 33 Mn 9 Lm 2 So 1 Po 3 Lm 1 Cn 2 Mn 1 Sc 2 Lo 22 Mn 4 Lm 1 Mn 9",
  "Lm 1 Mn 3 Lm 1 Mn 5 Cn 2 Po 15 Cn 1 Lo 25 Mn 3 Cn 2 Po 1 Cn 1 Lo 11 Cn 5 Lo 24 Sk 1 Lo 6 Cn",
  "1 Cf 2 Cn 6 Mn 8 Lo 41 Lm 1 Mn 24 Cf 1 Mn 32 Mc 1 Lo 54 Mn 1 Mc 1 Mn 1 Lo 1 Mc 3 Mn 8 Mc 4",
  "Mn 1 Mc 2 Lo 1 Mn 7 Lo 10 Mn 2 Po 2 Nd 10 Po 1 Lm 1 Lo 15 Mn 1 Mc 2 Cn 1 Lo 8 Cn 2 Lo 2 Cn 2",
  "Lo 22 Cn 1 Lo 7 Cn 1 Lo 1 Cn 3 Lo 4 Cn 2 Mn 1 Lo 1 Mc 3 Mn 4 Cn 2 Mc 2 Cn 2 Mc 2 Mn 1 Lo 1",
  "Cn 8 Mc 1 Cn 4 Lo 2 Cn 1 Lo 3 Mn 2 Cn 2 Nd 10 Lo 2 Sc 2 No 6 So 1 Sc 1 Lo 1 Po 1 Mn 1 Cn 2",
  "Mn 2 Mc 1 Cn 1 Lo 6 Cn 4 Lo 2 Cn 2 Lo 22 Cn 1 Lo 7 Cn 1 Lo 2 Cn 1 Lo 2 Cn 1 Lo 2 Cn 2 Mn 1",
  "Cn 1 Mc 3 Mn 2 Cn 4 Mn 2 Cn 2 Mn 3 Cn 3 Mn 1 Cn 7 Lo 4 Cn 1 Lo 1 Cn 7 Nd 10 Mn 2 Lo 3 Mn 1",
  "Po 1 Cn 10 Mn 2 Mc 1 Cn 1 Lo 9 Cn 1 Lo 3 Cn 1 Lo 22 Cn 1 Lo 7 Cn 1 Lo 2 Cn 1 Lo 5 Cn 2 Mn 1",
  "Lo 1 Mc 3 Mn 5 Cn 1 Mn 2 Mc 1 Cn 1 Mc 2 Mn 1 Cn 2 Lo 1 Cn 15 Lo 2 Mn 2 Cn 2 Nd 10 Po 1 Sc 1",
  "Cn 7 Lo 1 Mn 6 Cn 1 Mn 1 Mc 2 Cn 1 Lo 8 Cn 2 Lo 2 Cn 2 Lo 22 Cn 1 Lo 7 Cn 1 Lo 2 Cn 1 Lo 5",
  "Cn 2 Mn 1 Lo 1 Mc 1 Mn 1 Mc 1 Mn 4 Cn 2 Mc 2 Cn 2 Mc 2 Mn 1 Cn 7 Mn 2 Mc 1 Cn 4 Lo 2 Cn 1 Lo",
  "3 Mn 2 Cn 2 Nd 10 So 1 Lo 1 No 6 Cn 10 Mn 1 Lo 1 Cn 1 Lo 6 Cn 3 Lo 3 Cn 1 Lo 4 Cn 3 Lo 2 Cn",
  "1 Lo 1 Cn 1 Lo 2 Cn 3 Lo 2 Cn 3 Lo 3 Cn 3 Lo 12 Cn 4 Mc 2 Mn 1 Mc 2 Cn 3 Mc 3 Cn 1 Mc 3 Mn 1",
  "Cn 2 Lo 1 Cn 6 Mc 1 Cn 14 Nd 10 No 3 So 6 Sc 1 So 1 Cn 5 Mn 1 Mc 3 Mn 1 Lo 8 Cn 1 Lo 3 Cn 1",
  "Lo 23 Cn 1 Lo 16 Cn 2 Mn 1 Lo 1 Mn 3 Mc 4 Cn 1 Mn 3 Cn 1 Mn 4 Cn 7 Mn 2 Cn 1 Lo 3 Cn 2 Lo 1",
  "Cn 2 Lo 2 Mn 2 Cn 2 Nd 10 Cn 7 Po 1 No 7 So 1 Lo 1 Mn 1 Mc 2 Po 1 Lo 8 Cn 1 Lo 3 Cn 1 Lo 23",
  "Cn 1 Lo 10 Cn 1 Lo 5 Cn 2 Mn 1 Lo 1 Mc 1 Mn 1 Mc 5 Cn 1 Mn 1 Mc 2 Cn 1 Mc 2 Mn 2 Cn 7 Mc 2",
  "Cn 6 Lo 2 Cn 1 Lo 2 Mn 2 Cn 2 Nd 10 Cn 1 Lo 2 Mc 1 Cn 12 Mn 2 Mc 2 Lo 9 Cn 1 Lo 3 Cn 1 Lo 41",
  "Mn 2 Lo 1 Mc 3 Mn 4 Cn 1 Mc 3 Cn 1 Mc 3 Mn 1 Lo 1 So 1 Cn 4 Lo 3 Mc 1 No 7 Lo 3 Mn 2 Cn 2 Nd",
  "10 No 9 So 1 Lo 6 Cn 1 Mn 1 Mc 2 Cn 1 Lo 18 Cn 3 Lo 24 Cn 1 Lo 9 Cn 1 Lo 1 Cn 2 Lo 7 Cn 3 Mn",
  "1 Cn 4 Mc 3 Mn 3 Cn 1 Mn 1 Cn 1 Mc 8 Cn 6 Nd 10 Cn 2 Mc 2 Po 1 Cn 12 Lo 48 Mn 1 Lo 2 Mn 7 Cn",
  "4 Sc 1 Lo 6 Lm 1 Mn 8 Po 1 Nd 10 Po 2 Cn 37 Lo 2 Cn 1 Lo 1 Cn 1 Lo 5 Cn 1 Lo 24 Cn 1 Lo 1 Cn",
  "1 Lo 10 Mn 1 Lo 2 Mn 9 Lo 1 Cn 2 Lo 5 Cn 1 Lm 1 Cn 1 Mn 7 Cn 1 Nd 10 Cn 2 Lo 4 Cn 32 Lo 1 So",
  "3 Po 15 So 1 Po 1 So 3 Mn 2 So 6 Nd 10 No 10 So 1 Mn 1 So 1 Mn 1 So 1 Mn 1 Ps 1 Pe 1 Ps 1 Pe",
  "1 Mc 2 Lo 8 Cn 1 Lo 36 Cn 4 Mn 14 Mc 1 Mn 5 Po 1 Mn 2 Lo 5 Mn 11 Cn 1 Mn 36 Cn 1 So 8 Mn 1",
  "So 6 Cn 1 So 2 Po 5 So 4 Po 2 Cn 37 Lo 43 Mc 2 Mn 4 Mc 1 Mn 6 Mc 1 Mn 2 Mc 2 Mn 2 Lo 1 Nd 10",
  "Po 6 Lo 6 Mc 2 Mn 2 Lo 4 Mn 3 Lo 1 Mc 3 Lo 2 Mc 7 Lo 3 Mn 4 Lo 13 Mn 1 Mc 2 Mn 2 Mc 6 Mn 1",
  "Lo 1 Mc 1 Nd 10 Mc 3 Mn 1 So 2 Lu 38 Cn 1 Lu 1 Cn 5 Lu 1 Cn 2 Ll 43 Po 1 Lm 1 Ll 3 Lo 329 Cn",
  "1 Lo 4 Cn 2 Lo 7 Cn 1 Lo 1 Cn 1 Lo 4 Cn 2 Lo 41 Cn 1 Lo 4 Cn 2 Lo 33 Cn 1 Lo 4 Cn 2 Lo 7 Cn",
  "1 Lo 1 Cn 1 Lo 4 Cn 2 Lo 15 Cn 1 Lo 57 Cn 1 Lo 4 Cn 2 Lo 67 Cn 2 Mn 3 Po 9 No 20 Cn 3 Lo 16",
  "So 10 Cn 6 Lu 86 Cn 2 Ll 6 Cn 2 Pd 1 Lo 620 So 1 Po 1 Lo 17 Zs 1 Lo 26 Ps 1 Pe 1 Cn 3 Lo 75",
  "Po 3 Nl 3 Lo 8 Cn 7 Lo 18 Mn 3 Mc 1 Cn 9 Lo 19 Mn 2 Mc 1 Po 2 Cn 9 Lo 18 Mn 2 Cn 12 Lo 13 Cn",
  "1 Lo 3 Cn 1 Mn 2 Cn 12 Lo 52 Mn 2 Mc 1 Mn 7 Mc 8 Mn 1 Mc 2 Mn 11 Po 3 Lm 1 Po 3 Sc 1 Lo 1 Mn",
  "1 Cn 2 Nd 10 Cn 6 No 10 Cn 6 Po 6 Pd 1 Po 4 Mn 3 Cf 1 Mn 1 Nd 10 Cn 6 Lo 35 Lm 1 Lo 53 Cn 7",
  "Lo 5 Mn 2 Lo 34 Mn 1 Lo 1 Cn 5 Lo 70 Cn 10 Lo 31 Cn 1 Mn 3 Mc 4 Mn 2 Mc 3 Cn 4 Mc 2 Mn 1 Mc",
  "6 Mn 3 Cn 4 So 1 Cn 3 Po 2 Nd 10 Lo 30 Cn 2 Lo 5 Cn 11 Lo 44 Cn 4 Lo 26 Cn 6 Nd 10 No 1 Cn 3",
  "So 34 Lo 23 Mn 2 Mc 2 Mn 1 Cn 2 Po 2 Lo 53 Mc 1 Mn 1 Mc 1 Mn 7 Cn 1 Mn 1 Mc 1 Mn 1 Mc 2 Mn 8",
  "Mc 6 Mn 10 Cn 2 Mn 1 Nd 10 Cn 6 Nd 10 Cn 6 Po 7 Lm 1 Po 6 Cn 2 Mn 14 Me 1 Mn 16 Cn 49 Mn 4",
  "Mc 1 Lo 47 Mn 1 Mc 1 Mn 5 Mc 1 Mn 1 Mc 5 Mn 1 Mc 2 Lo 8 Cn 3 Nd 10 Po 7 So 10 Mn 9 So 9 Po 2",
  "Cn 1 Mn 2 Mc 1 Lo 30 Mc 1 Mn 4 Mc 2 Mn 2 Mc 1 Mn 3 Lo 2 Nd 10 Lo 44 Mn 1 Mc 1 Mn 2 Mc 3 Mn 1",
  "Mc 1 Mn 3 Mc 2 Cn 8 Po 4 Lo 36 Mc 8 Mn 8 Mc 2 Mn 2 Cn 3 Po 5 Nd 10 Cn 3 Lo 3 Nd 10 Lo 30 Lm",
  "6 Po 2 Ll 9 Cn 7 Lu 43 Cn 2 Lu 3 Po 8 Cn 8 Mn 3 Po 1 Mn 13 Mc 1 Mn 7 Lo 4 Mn 1 Lo 6 Mn 1 Lo",
  "2 Mc 1 Mn 2 Lo 1 Cn 5 Ll 44 Lm 63 Ll 13 Lm 1 Ll 34 Lm 37 Mn 64 Lu 1 Ll 1 Lu 1 Ll 1 Lu 1 Ll 1",
  "Lu 1 Ll 1 Lu 1 Ll 1 Lu 1 Ll 1 Lu 1 Ll 1 Lu 1 Ll 1 Lu 1 Ll 1 Lu 1 Ll 1 Lu 1 Ll 1 Lu 1 Ll 1 Lu",
  "1 Ll 1 Lu 1 Ll 1 Lu 1 Ll 1 Lu 1 Ll 1 Lu 1 Ll 1 Lu 1 Ll 1 Lu 1 Ll 1 Lu 1 Ll 1 Lu 1 Ll 1 Lu 1",
  "Ll 1 Lu 1 Ll 1 Lu 1 Ll 1 Lu 1 Ll 1 Lu 1 Ll 1 Lu 1 Ll 1 Lu 1 Ll 1 Lu 1 Ll 1 Lu 1 Ll 1 Lu 1 Ll",
  "1 Lu 1 Ll 1 Lu 1 Ll 1 Lu 1 Ll 1 Lu 1 Ll 1 Lu 1 Ll 1 Lu 1 Ll 1 Lu 1 Ll 1 Lu 1 Ll 1 Lu 1 Ll 1",
  "Lu 1 Ll 1 Lu 1 Ll 1 Lu 1 Ll 1 Lu 1 Ll 1 Lu 1 Ll 1 Lu 1 Ll 1 Lu 1 Ll 1 Lu 1 Ll 1 Lu 1 Ll 1 Lu",
  "1 Ll 1 Lu 1 Ll 1 Lu 1 Ll 1 Lu 1 Ll 1 Lu 1 Ll 1 Lu 1 Ll 1 Lu 1 Ll 1 Lu 1 Ll 1 Lu 1 Ll 1 Lu 1",
  "Ll 1 Lu 1 Ll 1 Lu 1 Ll 1 Lu 1 Ll 1 Lu 1 Ll 1 Lu 1 Ll 1 Lu 1 Ll 1 Lu 1 Ll 1 Lu 1 Ll 1 Lu 1 Ll",
  "1 Lu 1 Ll 1 Lu 1 Ll 1 Lu 1 Ll 1 Lu 1 Ll 1 Lu 1 Ll 1 Lu 1 Ll 1 Lu 1 Ll 9 Lu 1 Ll 1 Lu 1 Ll 1",
  "Lu 1 Ll 1 Lu 1 Ll 1 Lu 1 Ll 1 Lu 1 Ll 1 Lu 1 Ll 1 Lu 1 Ll 1 Lu 1 Ll 1 Lu 1 Ll 1 Lu 1 Ll 1 Lu",
  "1 Ll 1 Lu 1 Ll 1 Lu 1 Ll 1 Lu 1 Ll 1 Lu 1 Ll 1 Lu 1 Ll 1 Lu 1 Ll 1 Lu 1 Ll 1 Lu 1 Ll 1 Lu 1",
  "Ll 1 Lu 1 Ll 1 Lu 1 Ll 1 Lu 1 Ll 1 Lu 1 Ll 1 Lu 1 Ll 1 Lu 1 Ll 1 Lu 1 Ll 1 Lu 1 Ll 1 Lu 1 Ll",
  "1 Lu 1 Ll 1 Lu 1 Ll 1 Lu 1 Ll 1 Lu 1 Ll 1 Lu 1 Ll 1 Lu 1 Ll 1 Lu 1 Ll 1 Lu 1 Ll 1 Lu 1 Ll 1",
  "Lu 1 Ll 1 Lu 1 Ll 1 Lu 1 Ll 1 Lu 1 Ll 1 Lu 1 Ll 1 Lu 1 Ll 1 Lu 1 Ll 1 Lu 1 Ll 1 Lu 1 Ll 1 Lu",
  "1 Ll 9 Lu 8 Ll 6 Cn 2 Lu 6 Cn 2 Ll 8 Lu 8 Ll 8 Lu 8 Ll 6 Cn 2 Lu 6 Cn 2 Ll 8 Cn 1 Lu 1 Cn 1",
  "Lu 1 Cn 1 Lu 1 Cn 1 Lu 1 Ll 8 Lu 8 Ll 14 Cn 2 Ll 8 Lt 8 Ll 8 Lt 8 Ll 8 Lt 8 Ll 5 Cn 1 Ll 2",
  "Lu 4 Lt 1 Sk 1 Ll 1 Sk 3 Ll 3 Cn 1 Ll 2 Lu 4 Lt 1 Sk 3 Ll 4 Cn 2 Ll 2 Lu 4 Cn 1 Sk 3 Ll 8 Lu",
  "5 Sk 3 Cn 2 Ll 3 Cn 1 Ll 2 Lu 4 Lt 1 Sk 2 Cn 1 Zs 11 Cf 5 Pd 6 Po 2 Pi 1 Pf 1 Ps 1 Pi 2 Pf 1",
  "Ps 1 Pi 1 Po 8 Zl 1 Zp 1 Cf 5 Zs 1 Po 9 Pi 1 Pf 1 Po 4 Pc 2 Po 3 Sm 1 Ps 1 Pe 1 Po 11 Sm 1",
  "Po 1 Pc 1 Po 10 Zs 1 Cf 5 Cn 1 Cf 10 No 1 Lm 1 Cn 2 No 6 Sm 3 Ps 1 Pe 1 Lm 1 No 10 Sm 3 Ps 1",
  "Pe 1 Cn 1 Lm 13 Cn 3 Sc 33 Cn 15 Mn 13 Me 4 Mn 1 Me 3 Mn 12 Cn 15 So 2 Lu 1 So 4 Lu 1 So 2",
  "Ll 1 Lu 3 Ll 2 Lu 3 Ll 1 So 1 Lu 1 So 2 Sm 1 Lu 5 So 6 Lu 1 So 1 Lu 1 So 1 Lu 1 So 1 Lu 4 So",
  "1 Ll 1 Lu 4 Ll 1 Lo 4 Ll 1 So 2 Ll 2 Lu 2 Sm 5 Lu 1 Ll 4 So 1 Sm 1 So 2 Ll 1 So 1 No 16 Nl",
  "35 Lu 1 Ll 1 Nl 4 No 1 So 2 Cn 4 Sm 5 So 5 Sm 2 So 4 Sm 1 So 2 Sm 1 So 2 Sm 1 So 7 Sm 1 So",
  "31 Sm 2 So 2 Sm 1 So 1 Sm 1 So 31 Sm 268 So 8 Ps 1 Pe 1 Ps 1 Pe 1 So 20 Sm 2 So 7 Ps 1 Pe 1",
  "So 81 Sm 1 So 30 Sm 25 So 40 Sm 6 So 69 Cn 25 So 11 Cn 21 No 60 So 78 No 22 So 183 Sm 1 So 9",
  "Sm 1 So 54 Sm 8 So 111 Sm 1 So 248 Ps 1 Pe 1 Ps 1 Pe 1 Ps 1 Pe 1 Ps 1 Pe 1 Ps 1 Pe 1 Ps 1 Pe",
  "1 Ps 1 Pe 1 No 30 So 44 Sm 5 Ps 1 Pe 1 Sm 31 Ps 1 Pe 1 Ps 1 Pe 1 Ps 1 Pe 1 Ps 1 Pe 1 Ps 1 Pe",
  "1 Sm 16 So 256 Sm 131 Ps 1 Pe 1 Ps 1 Pe 1 Ps 1 Pe 1 Ps 1 Pe 1 Ps 1 Pe 1 Ps 1 Pe 1 Ps 1 Pe 1",
  "Ps 1 Pe 1 Ps 1 Pe 1 Ps 1 Pe 1 Ps 1 Pe 1 Sm 63 Ps 1 Pe 1 Ps 1 Pe 1 Sm 32 Ps 1 Pe 1 Sm 258 So",
  "48 Sm 21 So 2 Sm 6 So 39 Cn 2 So 32 Cn 1 So 105 Lu 48 Ll 48 Lu 1 Ll 1 Lu 3 Ll 2 Lu 1 Ll 1 Lu",
  "1 Ll 1 Lu 1 Ll 1 Lu 4 Ll 1 Lu 1 Ll 2 Lu 1 Ll 6 Lm 2 Lu 3 Ll 1 Lu 1 Ll 1 Lu 1 Ll 1 Lu 1 Ll 1",
  "Lu 1 Ll 1 Lu 1 Ll 1 Lu 1 Ll 1 Lu 1 Ll 1 Lu 1 Ll 1 Lu 1 Ll 1 Lu 1 Ll 1 Lu 1 Ll 1 Lu 1 Ll 1 Lu",
  "1 Ll 1 Lu 1 Ll 1 Lu 1 Ll 1 Lu 1 Ll 1 Lu 1 Ll 1 Lu 1 Ll 1 Lu 1 Ll 1 Lu 1 Ll 1 Lu 1 Ll 1 Lu 1",
  "Ll 1 Lu 1 Ll 1 Lu 1 Ll 1 Lu 1 Ll 1 Lu 1 Ll 1 Lu 1 Ll 1 Lu 1 Ll 1 Lu 1 Ll 1 Lu 1 Ll 1 Lu 1 Ll",
  "1 Lu 1 Ll 1 Lu 1 Ll 1 Lu 1 Ll 1 Lu 1 Ll 1 Lu 1 Ll 1 Lu 1 Ll 1 Lu 1 Ll 1 Lu 1 Ll 1 Lu 1 Ll 1",
  "Lu 1 Ll 1 Lu 1 Ll 1 Lu 1 Ll 1 Lu 1 Ll 1 Lu 1 Ll 1 Lu 1 Ll 1 Lu 1 Ll 1 Lu 1 Ll 1 Lu 1 Ll 2 So",
  "6 Lu 1 Ll 1 Lu 1 Ll 1 Mn 3 Lu 1 Ll 1 Cn 5 Po 4 No 1 Po 2 Ll 38 Cn 1 Ll 1 Cn 5 Ll 1 Cn 2 Lo",
  "56 Cn 7 Lm 1 Po 1 Cn 14 Mn 1 Lo 23 Cn 9 Lo 7 Cn 1 Lo 7 Cn 1 Lo 7 Cn 1 Lo 7 Cn 1 Lo 7 Cn 1 Lo",
  "7 Cn 1 Lo 7 Cn 1 Lo 7 Cn 1 Mn 32 Po 2 Pi 1 Pf 1 Pi 1 Pf 1 Po 3 Pi 1 Pf 1 Po 1 Pi 1 Pf 1 Po 9",
  "Pd 1 Po 2 Pd 1 Po 1 Pi 1 Pf 1 Po 2 Pi 1 Pf 1 Ps 1 Pe 1 Ps 1 Pe 1 Ps 1 Pe 1 Ps 1 Pe 1 Po 5 Lm",
  "1 Po 10 Pd 2 Po 4 Pd 1 Po 1 Ps 1 Po 13 So 2 Po 3 Ps 1 Pe 1 Ps 1 Pe 1 Ps 1 Pe 1 Ps 1 Pe 1 Pd",
  "1 Cn 34 So 26 Cn 1 So 89 Cn 12 So 214 Cn 26 So 12 Cn 4 Zs 1 Po 3 So 1 Lm 1 Lo 1 Nl 1 Ps 1 Pe",
  "1 Ps 1 Pe 1 Ps 1 Pe 1 Ps 1 Pe 1 Ps 1 Pe 1 So 2 Ps 1 Pe 1 Ps 1 Pe 1 Ps 1 Pe 1 Ps 1 Pe 1 Pd 1",
  "Ps 1 Pe 2 So 1 Nl 9 Mn 4 Mc 2 Pd 1 Lm 5 So 2 Nl 3 Lm 1 Lo 1 Po 1 So 2 Cn 1 Lo 86 Cn 2 Mn 2",
  "Sk 2 Lm 2 Lo 1 Pd 1 Lo 90 Po 1 Lm 3 Lo 1 Cn 5 Lo 43 Cn 1 Lo 94 Cn 1 So 2 No 4 So 10 Lo 32 So",
  "36 Cn 12 Lo 16 So 31 Cn 1 No 10 So 30 No 8 So 1 No 15 So 32 No 10 So 39 No 15 So 320 Lo 6592",
  "So 64 Lo 21013 Lm 1 Lo 1143 Cn 3 So 55 Cn 9 Lo 40 Lm 6 Po 2 Lo 268 Lm 1 Po 3 Lo 16 Nd 10 Lo",
  "2 Cn 20 Lu 1 Ll 1 Lu 1 Ll 1 Lu 1 Ll 1 Lu 1 Ll 1 Lu 1 Ll 1 Lu 1 Ll 1 Lu 1 Ll 1 Lu 1 Ll 1 Lu 1",
  "Ll 1 Lu 1 Ll 1 Lu 1 Ll 1 Lu 1 Ll 1 Lu 1 Ll 1 Lu 1 Ll 1 Lu 1 Ll 1 Lu 1 Ll 1 Lu 1 Ll 1 Lu 1 Ll",
  "1 Lu 1 Ll 1 Lu 1 Ll 1 Lu 1 Ll 1 Lu 1 Ll 1 Lu 1 Ll 1 Lo 1 Mn 1 Me 3 Po 1 Mn 10 Po 1 Lm 1 Lu 1",
  "Ll 1 Lu 1 Ll 1 Lu 1 Ll 1 Lu 1 Ll 1 Lu 1 Ll 1 Lu 1 Ll 1 Lu 1 Ll 1 Lu 1 Ll 1 Lu 1 Ll 1 Lu 1 Ll",
  "1 Lu 1 Ll 1 Lu 1 Ll 1 Lu 1 Ll 1 Lu 1 Ll 1 Lm 2 Mn 2 Lo 70 Nl 10 Mn 2 Po 6 Cn 8 Sk 23 Lm 9 Sk",
  "2 Lu 1 Ll 1 Lu 1 Ll 1 Lu 1 Ll 1 Lu 1 Ll 1 Lu 1 Ll 1 Lu 1 Ll 1 Lu 1 Ll 3 Lu 1 Ll 1 Lu 1 Ll 1",
  "Lu 1 Ll 1 Lu 1 Ll 1 Lu 1 Ll 1 Lu 1 Ll 1 Lu 1 Ll 1 Lu 1 Ll 1 Lu 1 Ll 1 Lu 1 Ll 1 Lu 1 Ll 1 Lu",
  "1 Ll 1 Lu 1 Ll 1 Lu 1 Ll 1 Lu 1 Ll 1 Lu 1 Ll 1 Lu 1 Ll 1 Lu 1 Ll 1 Lu 1 Ll 1 Lu 1 Ll 1 Lu 1",
  "Ll 1 Lu 1 Ll 1 Lu 1 Ll 1 Lu 1 Ll 1 Lu 1 Ll 1 Lu 1 Ll 1 Lu 1 Ll 1 Lu 1 Ll 1 Lu 1 Ll 1 Lu 1 Ll",
  "1 Lu 1 Ll 1 Lm 1 Ll 8 Lu 1 Ll 1 Lu 1 Ll 1 Lu 2 Ll 1 Lu 1 Ll 1 Lu 1 Ll 1 Lu 1 Ll 1 Lu 1 Ll 1",
  "Lm 1 Sk 2 Lu 1 Ll 1 Lu 1 Ll 1 Lo 1 Lu 1 Ll 1 Lu 1 Ll 3 Lu 1 Ll 1 Lu 1 Ll 1 Lu 1 Ll 1 Lu 1 Ll",
  "1 Lu 1 Ll 1 Lu 1 Ll 1 Lu 1 Ll 1 Lu 1 Ll 1 Lu 1 Ll 1 Lu 1 Ll 1 Lu 5 Ll 1 Lu 5 Ll 1 Lu 1 Ll 1",
  "Lu 1 Ll 1 Lu 1 Ll 1 Lu 1 Ll 1 Lu 1 Ll 1 Lu 1 Ll 1 Lu 1 Ll 1 Lu 4 Ll 1 Lu 1 Ll 1 Cn 5 Lu 1 Ll",
  "1 Cn 1 Ll 1 Cn 1 Ll 1 Lu 1 Ll 1 Lu 1 Ll 1 Cn 24 Lm 3 Lu 1 Ll 1 Lo 1 Lm 2 Ll 1 Lo 7 Mn 1 Lo 3",
  "Mn 1 Lo 4 Mn 1 Lo 23 Mc 2 Mn 2 Mc 1 So 4 Mn 1 Cn 3 No 6 So 2 Sc 1 So 1 Cn 6 Lo 52 Po 4 Cn 8",
  "Mc 2 Lo 50 Mc 16 Mn 2 Cn 8 Po 2 Nd 10 Cn 6 Mn 18 Lo 6 Po 3 Lo 1 Po 1 Lo 2 Mn 1 Nd 10 Lo 28",
  "Mn 8 Po 2 Lo 23 Mn 11 Mc 2 Cn 11 Po 1 Lo 29 Cn 3 Mn 3 Mc 1 Lo 47 Mn 1 Mc 2 Mn 4 Mc 2 Mn 2 Mc",
  "3 Po 13 Cn 1 Lm 1 Nd 10 Cn 4 Po 2 Lo 5 Mn 1 Lm 1 Lo 9 Nd 10 Lo 5 Cn 1 Lo 41 Mn 6 Mc 2 Mn 2",
  "Mc 2 Mn 2 Cn 9 Lo 3 Mn 1 Lo 8 Mn 1 Mc 1 Cn 2 Nd 10 Cn 2 Po 4 Lo 16 Lm 1 Lo 6 So 3 Lo 1 Mc 1",
  "Mn 1 Mc 1 Lo 50 Mn 1 Lo 1 Mn 3 Lo 2 Mn 2 Lo 5 Mn 2 Lo 1 Mn 1 Lo 1 Cn 24 Lo 2 Lm 1 Po 2 Lo 11",
  "Mc 1 Mn 2 Mc 2 Po 2 Lo 1 Lm 2 Mc 1 Mn 1 Cn 10 Lo 6 Cn 2 Lo 6 Cn 2 Lo 6 Cn 9 Lo 7 Cn 1 Lo 7",
  "Cn 1 Ll 43 Sk 1 Lm 4 Ll 9 Lm 1 Sk 2 Cn 4 Ll 80 Lo 35 Mc 2 Mn 1 Mc 2 Mn 1 Mc 2 Po 1 Mc 1 Mn 1",
  "Cn 2 Nd 10 Cn 6 Lo 11172 Cn 12 Lo 23 Cn 4 Lo 49 Cn 4 Cs 2048 Co 6400 Lo 366 Cn 2 Lo 106 Cn",
  "38 Ll 7 Cn 12 Ll 5 Cn 5 Lo 1 Mn 1 Lo 10 Sm 1 Lo 13 Cn 1 Lo 5 Cn 1 Lo 1 Cn 1 Lo 2 Cn 1 Lo 2",
  "Cn 1 Lo 108 Sk 17 Cn 16 Lo 363 Pe 1 Ps 1 So 16 Lo 64 Cn 2 Lo 54 Cn 7 So 1 Cn 32 Lo 12 Sc 1",
  "So 3 Mn 16 Po 7 Ps 1 Pe 1 Po 1 Cn 6 Mn 16 Po 1 Pd 2 Pc 2 Ps 1 Pe 1 Ps 1 Pe 1 Ps 1 Pe 1 Ps 1",
  "Pe 1 Ps 1 Pe 1 Ps 1 Pe 1 Ps 1 Pe 1 Ps 1 Pe 1 Po 2 Ps 1 Pe 1 Po 4 Pc 3 Po 3 Cn 1 Po 4 Pd 1 Ps",
  "1 Pe 1 Ps 1 Pe 1 Ps 1 Pe 1 Po 3 Sm 1 Pd 1 Sm 3 Cn 1 Po 1 Sc 1 Po 2 Cn 4 Lo 5 Cn 1 Lo 135 Cn",
  "2 Cf 1 Cn 1 Po 3 Sc 1 Po 3 Ps 1 Pe 1 Po 1 Sm 1 Po 1 Pd 1 Po 2 Nd 10 Po 2 Sm 3 Po 2 Lu 26 Ps",
  "1 Po 1 Pe 1 Sk 1 Pc 1 Sk 1 Ll 26 Ps 1 Sm 1 Pe 1 Sm 1 Ps 1 Pe 1 Po 1 Ps 1 Pe 1 Po 2 Lo 10 Lm",
  "1 Lo 45 Lm 2 Lo 31 Cn 3 Lo 6 Cn 2 Lo 6 Cn 2 Lo 6 Cn 2 Lo 3 Cn 3 Sc 2 Sm 1 Sk 1 So 1 Sc 2 Cn",
  "1 So 1 Sm 4 So 2 Cn 10 Cf 3 So 2 Cn 2 Lo 12 Cn 1 Lo 26 Cn 1 Lo 19 Cn 1 Lo 2 Cn 1 Lo 15 Cn 2",
  "Lo 14 Cn 34 Lo 123 Cn 5 Po 3 Cn 4 No 45 Cn 3 So 9 Nl 53 No 4 So 17 No 2 So 3 Cn 1 So 13 Cn 3",
  "So 1 Cn 47 So 45 Mn 1 Cn 130 Lo 29 Cn 3 Lo 49 Cn 15 Mn 1 No 27 Cn 4 Lo 32 No 4 Cn 9 Lo 20 Nl",
  "1 Lo 8 Nl 1 Cn 5 Lo 38 Mn 5 Cn 5 Lo 30 Cn 1 Po 1 Lo 36 Cn 4 Lo 8 Po 1 Nl 5 Cn 42 Lu 40 Ll 40",
  "Lo 78 Cn 2 Nd 10 Cn 6 Lu 36 Cn 4 Ll 36 Cn 4 Lo 40 Cn 8 Lo 52 Cn 11 Po 1 Lu 11 Cn 1 Lu 15 Cn",
  "1 Lu 7 Cn 1 Lu 2 Cn 1 Ll 11 Cn 1 Ll 15 Cn 1 Ll 7 Cn 1 Ll 2 Cn 67 Lo 311 Cn 9 Lo 22 Cn 10 Lo",
  "8 Cn 24 Lm 6 Cn 1 Lm 42 Cn 1 Lm 9 Cn 69 Lo 6 Cn 2 Lo 1 Cn 1 Lo 44 Cn 1 Lo 2 Cn 3 Lo 1 Cn 2",
  "Lo 23 Cn 1 Po 1 No 8 Lo 23 So 2 No 7 Lo 31 Cn 8 No 9 Cn 48 Lo 19 Cn 1 Lo 2 Cn 5 No 5 Lo 22",
  "No 6 Cn 3 Po 1 Lo 26 Cn 5 Po 1 Cn 64 Lo 56 Cn 4 No 2 Lo 2 No 16 Cn 2 No 46 Lo 1 Mn 3 Cn 1 Mn",
  "2 Cn 5 Mn 4 Lo 4 Cn 1 Lo 3 Cn 1 Lo 29 Cn 2 Mn 3 Cn 4 Mn 1 No 9 Cn 7 Po 9 Cn 7 Lo 29 No 2 Po",
  "1 Lo 29 No 3 Cn 32 Lo 8 So 1 Lo 28 Mn 2 Cn 4 No 5 Po 7 Cn 9 Lo 54 Cn 3 Po 7 Lo 22 Cn 2 No 8",
  "Lo 19 Cn 5 No 8 Lo 18 Cn 7 Po 4 Cn 12 No 7 Cn 80 Lo 73 Cn 55 Lu 51 Cn 13 Ll 51 Cn 7 No 6 Lo",
  "36 Mn 4 Cn 8 Nd 10 Cn 294 No 31 Cn 1 Lo 42 Cn 1 Mn 2 Pd 1 Cn 2 Lo 2 Cn 75 Mn 3 Lo 29 No 10",
  "Lo 1 Cn 8 Lo 22 Mn 11 No 4 Po 5 Cn 22 Lo 18 Mn 4 Po 4 Cn 38 Lo 21 No 7 Cn 20 Lo 23 Cn 9 Mc 1",
  "Mn 1 Mc 1 Lo 53 Mn 15 Po 7 Cn 4 No 20 Nd 10 Mn 1 Lo 2 Mn 2 Lo 1 Cn 9 Mn 3 Mc 1 Lo 45 Mc 3 Mn",
  "4 Mc 2 Mn 2 Po 2 Cf 1 Po 4 Mn 1 Cn 10 Cf 1 Cn 2 Lo 25 Cn 7 Nd 10 Cn 6 Mn 3 Lo 36 Mn 5 Mc 1",
  "Mn 8 Cn 1 Nd 10 Po 4 Lo 1 Mc 2 Lo 1 Cn 8 Lo 35 Mn 1 Po 2 Lo 1 Cn 9 Mn 2 Mc 1 Lo 48 Mc 3 Mn 9",
  "Mc 2 Lo 4 Po 4 Mn 4 Po 1 Mc 1 Mn 1 Nd 10 Lo 1 Po 1 Lo 1 Po 3 Cn 1 No 20 Cn 11 Lo 18 Cn 1 Lo",
  "25 Mc 3 Mn 3 Mc 2 Mn 1 Mc 1 Mn 2 Po 6 Mn 1 Lo 2 Mn 1 Cn 62 Lo 7 Cn 1 Lo 1 Cn 1 Lo 4 Cn 1 Lo",
  "15 Cn 1 Lo 10 Po 1 Cn 6 Lo 47 Mn 1 Mc 3 Mn 8 Cn 5 Nd 10 Cn 6 Mn 2 Mc 2 Cn 1 Lo 8 Cn 2 Lo 2",
  "Cn 2 Lo 22 Cn 1 Lo 7 Cn 1 Lo 2 Cn 1 Lo 5 Cn 1 Mn 2 Lo 1 Mc 2 Mn 1 Mc 4 Cn 2 Mc 2 Cn 2 Mc 3",
  "Cn 2 Lo 1 Cn 6 Mc 1 Cn 5 Lo 5 Mc 2 Cn 2 Mn 7 Cn 3 Mn 5 Cn 139 Lo 53 Mc 3 Mn 8 Mc 2 Mn 3 Mc 1",
  "Mn 1 Lo 4 Po 5 Nd 10 Po 2 Cn 1 Po 1 Mn 1 Lo 3 Cn 30 Lo 48 Mc 3 Mn 6 Mc 1 Mn 1 Mc 4 Mn 2 Mc 1",
  "Mn 2 Lo 2 Po 1 Lo 1 Cn 8 Nd 10 Cn 166 Lo 47 Mc 3 Mn 4 Cn 2 Mc 4 Mn 2 Mc 1 Mn 2 Po 23 Lo 4 Mn",
  "2 Cn 34 Lo 48 Mc 3 Mn 8 Mc 2 Mn 1 Mc 1 Mn 2 Po 3 Lo 1 Cn 11 Nd 10 Cn 6 Po 13 Cn 19 Lo 43 Mn",
  "1 Mc 1 Mn 1 Mc 2 Mn 6 Mc 1 Mn 1 Lo 1 Po 1 Cn 6 Nd 10 Cn 54 Lo 27 Cn 2 Mn 3 Mc 2 Mn 4 Mc 1 Mn",
  "5 Cn 4 Nd 10 No 2 Po 3 So 1 Lo 7 Cn 185 Lo 44 Mc 3 Mn 9 Mc 1 Mn 2 Po 1 Cn 100 Lu 32 Ll 32 Nd",
  "10 No 9 Cn 12 Lo 8 Cn 2 Lo 1 Cn 2 Lo 8 Cn 1 Lo 2 Cn 1 Lo 24 Mc 6 Cn 1 Mc 2 Cn 2 Mn 2 Mc 1 Mn",
  "1 Lo 1 Mc 1 Lo 1 Mc 1 Mn 1 Po 3 Cn 9 Nd 10 Cn 70 Lo 8 Cn 2 Lo 39 Mc 3 Mn 4 Cn 2 Mn 2 Mc 4 Mn",
  "1 Lo 1 Po 1 Lo 1 Mc 1 Cn 27 Lo 1 Mn 10 Lo 40 Mn 6 Mc 1 Lo 1 Mn 4 Po 8 Mn 1 Cn 8 Lo 1 Mn 6 Mc",
  "2 Mn 3 Lo 46 Mn 13 Mc 1 Mn 2 Po 3 Lo 1 Po 5 Cn 13 Lo 73 Cn 7 Po 10 Cn 246 Lo 9 Cn 1 Lo 37 Mc",
  "1 Mn 7 Cn 1 Mn 6 Mc 1 Mn 1 Lo 1 Po 5 Cn 10 Nd 10 No 19 Cn 3 Po 2 Lo 30 Cn 2 Mn 22 Cn 1 Mc 1",
  "Mn 7 Mc 1 Mn 2 Mc 1 Mn 2 Cn 73 Lo 7 Cn 1 Lo 2 Cn 1 Lo 38 Mn 6 Cn 3 Mn 1 Cn 1 Mn 2 Cn 1 Mn 7",
  "Lo 1 Mn 1 Cn 8 Nd 10 Cn 6 Lo 6 Cn 1 Lo 2 Cn 1 Lo 32 Mc 5 Cn 1 Mn 2 Cn 1 Mc 2 Mn 1 Mc 1 Mn 1",
  "Lo 1 Cn 7 Nd 10 Cn 310 Lo 19 Mn 2 Mc 2 Po 2 Cn 7 Mn 2 Lo 1 Mc 1 Lo 13 Cn 1 Lo 34 Mc 2 Mn 5",
  "Cn 3 Mc 2 Mn 1 Mc 1 Mn 1 Po 13 Nd 10 Cn 86 Lo 1 Cn 15 No 21 So 8 Sc 4 So 17 Cn 13 Po 1 Lo",
  "922 Cn 102 Nl 111 Cn 1 Po 5 Cn 11 Lo 196 Cn 2636 Lo 97 Po 2 Cn 13 Lo 1072 Cf 16 Mn 1 Lo 6 Mn",
  "15 Cn 4010 Lo 583 Cn 8633 Lo 569 Cn 7 Lo 31 Cn 1 Nd 10 Cn 4 Po 2 Lo 79 Cn 1 Nd 10 Cn 6 Lo 30",
  "Cn 2 Mn 5 Po 1 Cn 10 Lo 48 Mn 7 Po 5 So 4 Lm 4 Po 1 So 1 Cn 10 Nd 10 Cn 1 No 7 Cn 1 Lo 21 Cn",
  "5 Lo 19 Cn 688 Lu 32 Ll 32 No 23 Po 4 Cn 101 Lo 75 Cn 4 Mn 1 Lo 1 Mc 55 Cn 7 Mn 4 Lm 13 Cn",
  "64 Lm 2 Po 1 Lm 1 Mn 1 Cn 11 Mc 2 Cn 14 Lo 6136 Cn 8 Lo 1238 Cn 42 Lo 9 Cn 8935 Lm 4 Cn 1 Lm",
  "7 Cn 1 Lm 2 Cn 1 Lo 291 Cn 15 Lo 1 Cn 29 Lo 3 Cn 2 Lo 1 Cn 14 Lo 4 Cn 8 Lo 396 Cn 2308 Lo",
  "107 Cn 5 Lo 13 Cn 3 Lo 9 Cn 7 Lo 10 Cn 2 So 1 Mn 2 Po 1 Cf 4 Cn 4700 Mn 46 Cn 2 Mn 23 Cn 9",
  "So 116 Cn 60 So 246 Cn 10 So 39 Cn 2 So 60 Mc 2 Mn 3 So 3 Mc 6 Cf 8 Mn 8 So 2 Mn 7 So 30 Mn",
  "4 So 61 Cn 21 So 66 Mn 3 So 1 Cn 122 No 20 Cn 12 No 20 Cn 12 So 87 Cn 9 No 25 Cn 135 Lu 26",
  "Ll 26 Lu 26 Ll 7 Cn 1 Ll 18 Lu 26 Ll 26 Lu 1 Cn 1 Lu 2 Cn 2 Lu 1 Cn 2 Lu 2 Cn 2 Lu 4 Cn 1 Lu",
  "8 Ll 4 Cn 1 Ll 1 Cn 1 Ll 7 Cn 1 Ll 11 Lu 26 Ll 26 Lu 2 Cn 1 Lu 4 Cn 2 Lu 8 Cn 1 Lu 7 Cn 1 Ll",
  "26 Lu 2 Cn 1 Lu 4 Cn 1 Lu 5 Cn 1 Lu 1 Cn 3 Lu 7 Cn 1 Ll 26 Lu 26 Ll 26 Lu 26 Ll 26 Lu 26 Ll",
  "26 Lu 26 Ll 26 Lu 26 Ll 26 Lu 26 Ll 28 Cn 2 Lu 25 Sm 1 Ll 25 Sm 1 Ll 6 Lu 25 Sm 1 Ll 25 Sm 1",
  "Ll 6 Lu 25 Sm 1 Ll 25 Sm 1 Ll 6 Lu 25 Sm 1 Ll 25 Sm 1 Ll 6 Lu 25 Sm 1 Ll 25 Sm 1 Ll 6 Lu 1",
  "Ll 1 Cn 2 Nd 50 So 512 Mn 55 So 4 Mn 50 So 8 Mn 1 So 14 Mn 1 So 2 Po 5 Cn 15 Mn 5 Cn 1 Mn 15",
  "Cn 1104 Ll 10 Lo 1 Ll 20 Cn 6 Ll 6 Cn 213 Mn 7 Cn 1 Mn 17 Cn 2 Mn 7 Cn 1 Mn 2 Cn 1 Mn 5 Cn 5",
  "Lm 62 Cn 33 Mn 1 Cn 112 Lo 45 Cn 3 Mn 7 Lm 7 Cn 2 Nd 10 Cn 4 Lo 1 So 1 Cn 320 Lo 30 Mn 1 Cn",
  "17 Lo 44 Mn 4 Nd 10 Cn 5 Sc 1 Cn 464 Lo 27 Lm 1 Mn 4 Nd 10 Cn 742 Lo 7 Cn 1 Lo 4 Cn 1 Lo 2",
  "Cn 1 Lo 15 Cn 1 Lo 197 Cn 2 No 9 Mn 7 Cn 41 Lu 34 Ll 34 Mn 7 Lm 1 Cn 4 Nd 10 Cn 4 Po 2 Cn",
  "785 No 59 So 1 No 3 Sc 1 No 4 Cn 76 No 45 So 1 No 15 Cn 194 Lo 4 Cn 1 Lo 27 Cn 1 Lo 2 Cn 1",
  "Lo 1 Cn 2 Lo 1 Cn 1 Lo 10 Cn 1 Lo 4 Cn 1 Lo 1 Cn 1 Lo 1 Cn 6 Lo 1 Cn 4 Lo 1 Cn 1 Lo 1 Cn 1",
  "Lo 1 Cn 1 Lo 3 Cn 1 Lo 2 Cn 1 Lo 1 Cn 2 Lo 1 Cn 1 Lo 1 Cn 1 Lo 1 Cn 1 Lo 1 Cn 1 Lo 1 Cn 1 Lo",
  "2 Cn 1 Lo 1 Cn 2 Lo 4 Cn 1 Lo 7 Cn 1 Lo 4 Cn 1 Lo 4 Cn 1 Lo 1 Cn 1 Lo 10 Cn 1 Lo 17 Cn 5 Lo",
  "3 Cn 1 Lo 5 Cn 1 Lo 17 Cn 52 Sm 2 Cn 270 So 44 Cn 4 So 100 Cn 12 So 15 Cn 2 So 15 Cn 1 So 15",
  "Cn 1 So 37 Cn 10 No 13 So 161 Cn 56 So 29 Cn 13 So 44 Cn 4 So 9 Cn 7 So 2 Cn 14 So 6 Cn 154",
  "So 251 Sk 5 So 728 Cn 4 So 17 Cn 3 So 13 Cn 3 So 119 Cn 4 So 95 Cn 6 So 12 Cn 4 So 1 Cn 15",
  "So 12 Cn 4 So 56 Cn 8 So 10 Cn 6 So 40 Cn 8 So 30 Cn 2 So 2 Cn 78 So 340 Cn 12 So 14 Cn 2 So",
  "13 Cn 3 So 9 Cn 7 So 46 Cn 1 So 7 Cn 8 So 14 Cn 4 So 9 Cn 7 So 9 Cn 7 So 147 Cn 1 So 55 Cn",
  "37 Nd 10 Cn 1030 Lo 42720 Cn 32 Lo 4154 Cn 6 Lo 222 Cn 2 Lo 5762 Cn 14 Lo 7473 Cn 3103 Lo",
  "542 Cn 1506 Lo 4939 Cn 5 Lo 4192 Cn 711761 Cf 1 Cn 30 Cf 96 Cn 128 Mn 240 Cn 65040 Co 65534",
  "Cn 2 Co 65534 Cn 2"]

def generalCategories : List (String × Nat) := readRuns generalCategoryText

def inCategory (test : String → Bool) : CodeRanges := rangesOfRuns test generalCategories

end Schemata.Unicode
