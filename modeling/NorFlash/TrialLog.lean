import NorFlash.Bytes
import NorFlash.Fields

/-!
# Boot-trial log

The loader keeps a log of its boot attempts in the metadata block: little-endian 32-bit words, one
token a trial, ended by the first erased word. `TrialLog.scan` reads the log, `isConsistent` tells
whether nothing but erased words follows it, and `nextBank` tells which bank the loader tries next.
-/

namespace NorFlash

/-- A bank of the loader. -/
inductive Bank where
  /-- The first bank. -/
  | a
  /-- The second bank. -/
  | b
  deriving DecidableEq, Repr

namespace Bank

/-- The letter of a bank. -/
def letter : Bank → String
  | a => "A"
  | b => "B"

/-- The word that the loader appends for a trial of a bank. -/
def token : Bank → Nat
  | a => 0x11111111
  | b => 0x00000000

/-- The bank whose trial a word stands for. -/
def ofToken? (word : Nat) : Option Bank :=
  if word = token a then some a
  else if word = token b then some b
  else none

theorem ofToken?_token (bank : Bank) : ofToken? bank.token = some bank := by
  cases bank <;> rfl

end Bank

/-- The word that erased flash reads as. -/
def erasedWord : Nat := 0xFFFFFFFF

/-- The result of reading a metadata block as a log. -/
structure TrialLog where
  /-- The trials of bank A. -/
  aCount : Int
  /-- The trials of bank B. -/
  bCount : Int
  /-- The number of the first word that is no token. -/
  nextIndex : Int
  /-- The number of whole words in the block. -/
  capacity : Int
  /-- The first word that is no token, unless it is erased or there is none. -/
  strayWord : Option Int
  deriving DecidableEq, Repr

namespace TrialLog

/-- The bytes of a word. -/
def wordSize : Nat := 4

/-- The trials a bank has before the loader turns to the other one, unless told otherwise. -/
def defaultMaxTrials : Int := 4

/-! ## Reading a log -/

/-- Read the words from number `index` on, of which there are `words` more, with the trials of the
two banks counted so far. -/
def scanFrom (region : ByteArray) (capacity : Nat) :
    Nat → Nat → Nat → Nat → TrialLog
  | 0, index, aCount, bCount => ⟨aCount, bCount, index, capacity, none⟩
  | words + 1, index, aCount, bCount =>
    match Bytes.word? region (index * wordSize) with
    | none => ⟨aCount, bCount, index, capacity, none⟩
    | some word =>
      if word = erasedWord then ⟨aCount, bCount, index, capacity, none⟩
      else
        match Bank.ofToken? word with
        | some .a => scanFrom region capacity words (index + 1) (aCount + 1) bCount
        | some .b => scanFrom region capacity words (index + 1) aCount (bCount + 1)
        | none => ⟨aCount, bCount, index, capacity, some word⟩

/-- The log at the start of a metadata block; bytes after the last whole word are not looked at. -/
def scan (region : ByteArray) : TrialLog :=
  scanFrom region (region.size / wordSize) (region.size / wordSize) 0 0 0

/-! ## Judging a log -/

/-- Every word of the block is a token. -/
def full (log : TrialLog) : Bool :=
  decide (log.capacity ≤ log.nextIndex)

/-- The offset of the first word that is no token. -/
def nextOffset (log : TrialLog) : Int :=
  log.nextIndex * wordSize

/-- The first `n` words of `tail` are erased. -/
def erasedWords (tail : ByteArray) : Nat → Bool
  | 0 => true
  | n + 1 => Bytes.word? tail (n * wordSize) == some erasedWord && erasedWords tail n

/-- The words after the log, up to the capacity, as a part of `region`. -/
def tail (log : TrialLog) (region : ByteArray) : ByteArray :=
  Bytes.slice region log.nextOffset (log.capacity * wordSize)

/-- Whether only erased words follow the log in `region`. A stray word decides at once; otherwise
there is no answer where the part after the log is not made of whole words. -/
def isConsistent? (log : TrialLog) (region : ByteArray) : Option Bool :=
  if log.strayWord.isSome then some false
  else
    let rest := log.tail region
    if rest.size % wordSize = 0 then some (erasedWords rest (rest.size / wordSize)) else none

/-- The bank that the loader tries next: the second bank until it had its trials, then the first
one until it had its own, and then the second one for good. -/
def nextBank (log : TrialLog) (maxTrials : Int) : Bank :=
  if log.bCount < maxTrials then .b
  else if log.aCount < maxTrials then .a
  else .b

/-! ## Showing a log -/

/-- The fields of a log, by name. -/
def fields (log : TrialLog) : Fields :=
  [("a_count", .number log.aCount),
    ("b_count", .number log.bCount),
    ("next_index", .number log.nextIndex),
    ("capacity", .number log.capacity),
    ("stray_word", match log.strayWord with | some word => .number word | none => .null)]

/-- The fields of a log with the bank that the loader tries next. -/
def fieldsWith (log : TrialLog) (next : Bank) : Fields :=
  log.fields ++ [("next_bank", .text next.letter)]

/-- The lines that tell what a log holds and which bank the loader tries next. -/
def linesWith (log : TrialLog) (next : Bank) : List String :=
  ["boot trials: bank A = " ++ Numeral.decimal log.aCount ++ ", bank B = "
      ++ Numeral.decimal log.bCount ++ ", next_idx = " ++ Numeral.decimal log.nextIndex
      ++ " (capacity " ++ Numeral.decimal log.capacity ++ ")"]
    ++ (match log.strayWord with
      | some word => ["log ends at unexpected word 0x" ++ Numeral.hexPadded 8 word]
      | none => [])
    ++ (if log.full then ["log is full, the loader will compact it on the next boot"] else [])
    ++ ["next bank: " ++ next.letter]

/-- The numbers that these lines show in base ten. -/
def counts (log : TrialLog) : List Int :=
  [log.aCount, log.bCount, log.nextIndex, log.capacity]

/-- The lines, unless a number among them is too long to be written. -/
def lines? (log : TrialLog) (next : Bank) : Option (List String) :=
  if log.counts.all Numeral.isWritable then some (log.linesWith next) else none

end TrialLog

end NorFlash
