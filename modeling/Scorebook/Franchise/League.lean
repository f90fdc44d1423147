import Scorebook.Franchise.Reference

/-!
# The lineage of the league

The franchises of the league from its first season, 1982, on.  This table is used unless other
reference data are given.
-/

namespace Scorebook.Franchise

def past (franchise : Nat) (code : String) (first last : Int) : Entry :=
  ⟨⟨franchise⟩, code, first, some last⟩

/-- An entry whose code is still in use. -/
def current (franchise : Nat) (code : String) (first : Int) : Entry :=
  ⟨⟨franchise⟩, code, first, none⟩

/-- The codes of the league's franchises.  The sixth was sold in the middle of 1985; that whole
season is filed under its new code. -/
def leagueEntries : List Entry := [
  current 1 "SS" 1982,
  current 2 "LT" 1982,
  past 3 "MBC" 1982 1989,
  current 3 "LG" 1990,
  past 4 "OB" 1982 1995,
  current 4 "DO" 1996,
  past 5 "HT" 1982 2000,
  current 5 "KIA" 2001,
  past 6 "SM" 1982 1984,
  past 6 "CB" 1985 1987,
  past 6 "TP" 1988 1995,
  past 6 "HU" 1996 2007,
  past 6 "WO" 2008 2009,
  past 6 "NX" 2010 2018,
  current 6 "KI" 2019,
  past 7 "BE" 1986 1992,
  current 7 "HH" 1993,
  past 8 "SL" 1990 1999,
  past 8 "SK" 2000 2020,
  current 8 "SSG" 2021,
  current 9 "NC" 2011,
  current 10 "KT" 2013]

def leagueModernCodes : List ModernCode :=
  [(1, "SS"), (2, "LT"), (3, "LG"), (4, "OB"), (5, "KIA"), (6, "WO"), (7, "HH"), (8, "SSG"),
    (9, "NC"), (10, "KT")].map fun (id, code) => ⟨⟨id⟩, code⟩

def leagueNames : List Alias :=
  [("삼성", "SS"), ("삼성 라이온즈", "SS"), ("롯데", "LT"), ("롯데 자이언츠", "LT"),
    ("두산", "OB"), ("두산 베어스", "OB"), ("OB베어스", "OB"), ("LG 트윈스", "LG"),
    ("KIA 타이거즈", "HT"), ("기아", "HT"), ("기아 타이거즈", "HT"), ("해태", "HT"),
    ("해태 타이거즈", "HT"), ("한화", "HH"), ("한화 이글스", "HH"), ("빙그레", "BE"),
    ("빙그레 이글스", "BE"), ("KT 위즈", "KT"), ("NC 다이노스", "NC"), ("키움", "WO"),
    ("키움 히어로즈", "WO"), ("넥센", "NX"), ("넥센 히어로즈", "NX"), ("우리", "WO"),
    ("우리 히어로즈", "WO"), ("현대", "HU"), ("현대 유니콘스", "HU"), ("태평양", "TP"),
    ("태평양 돌핀스", "TP"), ("청보", "CB"), ("청보 핀토스", "CB"), ("삼미", "SM"),
    ("삼미 슈퍼스타즈", "SM"), ("MBC 청룡", "MBC"), ("MBC청룡", "MBC"), ("SSG 랜더스", "SSG"),
    ("SK 와이번스", "SK"), ("쌍방울", "SL"), ("쌍방울 레이더스", "SL"), ("나눔", "EA"),
    ("드림", "WE"), ("동군", "EA"), ("서군", "WE")].map fun (token, code) => ⟨token, code⟩

/-- Segments of game ids, each with a code whose franchise it means. -/
def leagueSegments : List Alias :=
  [("LG", "LG"), ("KT", "KT"), ("SS", "SS"), ("NC", "NC"), ("OB", "OB"), ("DO", "OB"),
    ("HH", "HH"), ("LT", "LT"), ("SK", "SSG"), ("WO", "WO"), ("KI", "WO"), ("HT", "HT"),
    ("SA", "SS"), ("AN", "HH"), ("HY", "WO"), ("TP", "WO"), ("CB", "WO"), ("SM", "WO"),
    ("NX", "WO"), ("HU", "WO"), ("BE", "HH"), ("SL", "SSG"), ("MB", "LG"), ("EA", "EA"),
    ("WE", "WE")].map fun (token, code) => ⟨token, code⟩

def Reference.league : Reference :=
  ⟨leagueEntries, leagueModernCodes, ["EA", "WE"], leagueNames, leagueSegments⟩

end Scorebook.Franchise
