import NorFlash.Binary64
import NorFlash.Text.Quoted
import NorFlash.Yaml.Timestamp

/-!
# Values without parts

An `Atom` is a value that is no collection. Atoms serve as keys of mappings: `Atom.same` tells
whether two of them are the same key, and `Atom.itemText?` writes one as an item of a collection.
-/

namespace NorFlash.Yaml

/-- A value that is no collection. -/
inductive Atom where
  /-- No value. -/
  | null
  /-- A truth value. -/
  | bool (b : Bool)
  /-- An integer. -/
  | integer (i : Int)
  /-- A number with a fraction; one that is no number differs from all others. -/
  | float (x : Binary64)
  /-- The value of the mark for no number, which is one and the same wherever it stands. -/
  | nan
  /-- A text. -/
  | text (s : String)
  /-- Bytes. -/
  | binary (bytes : List UInt8)
  /-- A date or a time. -/
  | timestamp (t : Timestamp)
  deriving DecidableEq, Repr

namespace Atom

/-- Whether two atoms are the same key. Numbers are compared by value, and truth values count as the
numbers one and zero. -/
def same : Atom → Atom → Bool
  | null, null => true
  | bool a, bool b => a == b
  | bool a, integer j => cond a 1 0 == j
  | bool a, float y => y.isInteger (cond a 1 0)
  | integer i, bool b => i == cond b 1 0
  | integer i, integer j => i == j
  | integer i, float y => y.isInteger i
  | float x, bool b => x.isInteger (cond b 1 0)
  | float x, integer j => x.isInteger j
  | float x, float y => x.equals y
  | nan, nan => true
  | text s, text t => s == t
  | binary s, binary t => s == t
  | timestamp s, timestamp t => s.same t
  | _, _ => false

/-- An atom as an item of a collection; an integer may be too long to be written. -/
def itemText? : Atom → Option String
  | null => some "None"
  | bool b => some (if b then "True" else "False")
  | integer i => if Numeral.isWritable i then some (Numeral.decimal i) else none
  | float x => some x.render
  | nan => some (Binary64.render .notANumber)
  | text s => some (Quoted.render s)
  | binary bytes => some (Quoted.renderOctets bytes)
  | timestamp t => some t.renderItem

/-- An atom by itself: texts and times as they are, and all else as in a collection. -/
def text? : Atom → Option String
  | text s => some s
  | timestamp t => some t.render
  | a => a.itemText?

end Atom

end NorFlash.Yaml
