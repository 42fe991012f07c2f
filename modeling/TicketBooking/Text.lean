import TicketBooking.Lib.Words
import Mathlib.Data.String.Basic
import Mathlib.Data.List.Infix

/-!
# Python strings and MongoDB object ids

The text functions the booking code normalises its inputs with.  `str.strip` is the Unicode one.
`str.lower` depends on the whole Unicode case table, so it stays a parameter `lower` of every
definition that uses it and nothing is assumed about it.

* `strip`, `zoneKey`, `contains` (Python's `in` on strings), and the texts that PostgreSQL stores
  (`FitsVarchar`).
* `ObjectId` is a value of `bson.ObjectId`: twenty-four lower-case hex digits.  `ObjectId.ofString?`
  is the constructor on a string (`none` is `InvalidId`) and `ObjectId.hex` is `str(oid)`.
-/

namespace TicketBooking

/-! ## `str.strip` -/

/-- The characters `str.strip` removes. -/
def isSpace (c : Char) : Bool :=
  (0x09 ≤ c.toNat && c.toNat ≤ 0x0d) || (0x1c ≤ c.toNat && c.toNat ≤ 0x20) ||
  c.toNat == 0x85 || c.toNat == 0xa0 || c.toNat == 0x1680 ||
  (0x2000 ≤ c.toNat && c.toNat ≤ 0x200a) ||
  c.toNat == 0x2028 || c.toNat == 0x2029 || c.toNat == 0x202f || c.toNat == 0x205f ||
  c.toNat == 0x3000

def stripChars (cs : List Char) : List Char := (cs.dropWhile isSpace).rdropWhile isSpace

/-- `s.strip()` -/
def strip (s : String) : String := String.ofList (stripChars s.toList)

theorem stripChars_idem (cs : List Char) : stripChars (stripChars cs) = stripChars cs :=
  Words.trim_trim cs

@[simp] theorem strip_strip (s : String) : strip (strip s) = strip s := by
  simp only [strip, String.toList_ofList, stripChars_idem]

/-- `sub in s` -/
def contains (sub s : String) : Bool := decide (sub.toList <:+: s.toList)

/-- `_zone_key`: the spelling-independent form of a zone name. -/
def zoneKey (lower : String → String) (zoneName : String) : String := lower (strip zoneName)

/-! ## Columns -/

/-- The value of a `VARCHAR(width)` column, without the character NUL that no text column takes. -/
def FitsVarchar (width : ℕ) (value : String) : Prop :=
  value.length ≤ width ∧ value.toList.all (fun c => c.toNat ≠ 0) = true

instance (width : ℕ) (value : String) : Decidable (FitsVarchar width value) :=
  inferInstanceAs (Decidable (_ ∧ _))

/-! ## Object ids -/

/-- A digit of `str(ObjectId)`. -/
def isLowerHex (c : Char) : Bool := ('0' ≤ c && c ≤ '9') || ('a' ≤ c && c ≤ 'f')

@[ext] structure ObjectId where
  hex : String
  wellFormed : hex.toList.length = 24 ∧ hex.toList.all isLowerHex = true
deriving DecidableEq

theorem ObjectId.hex_injective : Function.Injective ObjectId.hex := fun _ _ => ObjectId.ext

@[simp] theorem ObjectId.hex_inj {a b : ObjectId} : a.hex = b.hex ↔ a = b :=
  ObjectId.hex_injective.eq_iff

/-- `ObjectId(raw)`, `none` where the constructor raises `InvalidId`. -/
def ObjectId.ofString? (raw : String) : Option ObjectId :=
  let digits := raw.toList.map Char.toLower
  if valid : digits.length = 24 ∧ digits.all isLowerHex = true then
    some ⟨String.ofList digits, by simpa only [String.toList_ofList] using valid⟩
  else none

theorem toLower_of_isLowerHex {c : Char} (digit : isLowerHex c = true) : c.toLower = c := by
  simp only [isLowerHex, Bool.or_eq_true, Bool.and_eq_true, decide_eq_true_eq, Char.le_def,
    UInt32.le_iff_toNat_le, Char.reduceVal, UInt32.reduceToNat] at digit
  refine dif_neg ?_
  intro upper
  simp only [ge_iff_le, UInt32.le_iff_toNat_le, Char.reduceVal, UInt32.reduceToNat] at upper
  omega

/-- `ObjectId(str(oid)) == oid` -/
@[simp] theorem ObjectId.ofString?_hex (oid : ObjectId) :
    ObjectId.ofString? oid.hex = some oid := by
  have digits : oid.hex.toList.map Char.toLower = oid.hex.toList := by
    conv_rhs => rw [← List.map_id oid.hex.toList]
    refine List.map_congr_left fun c mem => ?_
    exact toLower_of_isLowerHex (List.all_eq_true.mp oid.wellFormed.2 c mem)
  simp only [ofString?, digits, oid.wellFormed, and_self, ↓reduceDIte, Option.some.injEq]
  exact ObjectId.ext String.ofList_toList

end TicketBooking
