import CilRecovery.Text.Hex

/-!
# Metadata tokens

A token names one row of one metadata table: the high byte of its 32 bits is the table, the other
24 bits are the row.  Only methods of the `methodDef` table carry a body in the same binary.

    (ofParts table row).table = table
    (ofParts table row).row = row mod 2^24
-/

namespace CilRecovery

/-- The identity of a metadata row. -/
structure Token where
  value : UInt32
deriving DecidableEq

namespace Token

/-! ## Tables -/

def typeRefTable : UInt8 := 0x01

def typeDefTable : UInt8 := 0x02

def fieldTable : UInt8 := 0x04

def methodDefTable : UInt8 := 0x06

def memberRefTable : UInt8 := 0x0a

/-! ## Parts -/

/-- The token of a row; bits of `row` above the lowest 24 are dropped. -/
def ofParts (table : UInt8) (row : UInt32) : Token :=
  ⟨(table.toUInt32 <<< 24) ||| (row &&& 0xffffff)⟩

def table (t : Token) : UInt8 := (t.value >>> 24).toUInt8

def row (t : Token) : UInt32 := t.value &&& 0xffffff

/-- Whether the token names a method of the binary itself. -/
def isMethodDef (t : Token) : Bool := t.table == methodDefTable

/-! ## Order -/

instance : LT Token := ⟨fun a b => a.value < b.value⟩

instance : LE Token := ⟨fun a b => a.value ≤ b.value⟩

instance (a b : Token) : Decidable (a < b) := inferInstanceAs (Decidable (a.value < b.value))

instance (a b : Token) : Decidable (a ≤ b) := inferInstanceAs (Decidable (a.value ≤ b.value))

/-- The tokens of a list in increasing order, each once. -/
def sorted (ts : List Token) : List Token := (ts.mergeSort fun a b => decide (a ≤ b)).eraseReps

/-! ## Text -/

def render (t : Token) : String := "0x" ++ String.ofList (Text.Hex.fixed 8 t.value.toNat)

/-- The token with its parts: table in two digits, row in decimal. -/
def renderParts (t : Token) : String :=
  "Token(" ++ t.render ++ ", table: 0x" ++ String.ofList (Text.Hex.fixed 2 t.table.toNat) ++
    ", row: " ++ toString t.row.toNat ++ ")"

end Token

end CilRecovery
