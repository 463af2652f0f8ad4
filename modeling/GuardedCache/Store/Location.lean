import GuardedCache.Http.Form
import GuardedCache.Text.Decimal

/-!
# Locations of servers

A server is located by a URL.  Spaces and control characters around a URL do not
count, nor do tabs and line breaks inside it, nor does its fragment.  Its query
may give the number of a database; the last number that is given counts.
-/

namespace GuardedCache.Store

open Text

/-- Where a server is, and which of its databases to use. -/
structure Location where
  /-- The URL up to its query. -/
  base : String
  /-- The number of the database. -/
  database : Int := 0
deriving DecidableEq, Repr

namespace Location

/-- Whether a character does not count at the ends of a URL. -/
def isPadding (c : Char) : Bool :=
  c.toNat ≤ 0x20

/-- Whether a character does not count anywhere in a URL. -/
def isLayout (c : Char) : Bool :=
  c = '\t' || c = '\n' || c = '\r'

/-- The characters of a URL that count. -/
def significant (url : String) : List Char :=
  let fromStart := url.toList.dropWhile isPadding
  (fromStart.reverse.dropWhile isPadding).reverse.filter (!isLayout ·)

/-- The number of a database: an integer of 64 bits. -/
def number? (text : String) : Option Int :=
  (Decimal.integer? text.toList).filter fun n =>
    Int64.minValue.toInt ≤ n && n ≤ Int64.maxValue.toInt

/-- The database that a query gives, or the first one. -/
def database? (query : String) : Option Int :=
  match (Http.formPairs query).reverse.lookup "db" with
  | none => some 0
  | some text => number? text

/-- The location that a URL gives, unless it gives no proper database. -/
def ofUrl? (url : String) : Option Location := do
  let (address, _) := Http.splitFirst '#' (significant url)
  let (base, query) := Http.splitFirst '?' address
  let database ← database? (String.ofList (query.getD []))
  return { base := String.ofList base, database }

end Location

end GuardedCache.Store
