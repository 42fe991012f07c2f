import TicketBooking.Lib.Dictionary

/-!
# Feature flags

The flag table, `FLAG_CHOICES` and the check of the admin endpoint (`app/core/flags.py`,
`app/api/v1/admin.py`).

* `refreshedValues` are the values a refresh makes of the rows it has read: what the table has for a
  known flag, the default where it has nothing (`getFlag_refreshedValues`).
* A `FlagChange` is a change that the endpoint lets through: a known flag and one of its values.
-/

namespace TicketBooking

open Dictionary

/-- key -> allowed values.  The first value is the default when the row is missing. -/
def flagChoices : List (String × List String) :=
  [("user_name_write_mode", ["legacy", "dual", "new"]),
    ("user_name_read_source", ["legacy", "new"])]

/-- What a flag dictionary maps the keys to. -/
abbrev FlagValues := List (String × String)

/-- `key in FLAG_CHOICES` -/
def knownFlag (key : String) : Bool := (flagChoices.lookup key).isSome

/-- `_defaults`; `choices[0]` exists for every flag. -/
def defaults : FlagValues := flagChoices.map fun flag => (flag.1, flag.2.headD "")

/-- `get_flag` on what `get_all_flags` has returned; `none` is a `KeyError`. -/
def getFlag (values : FlagValues) (key : String) : Option String := values.lookup key

/-! ## The table -/

/-- The rows of `feature_flags`, with their primary key. -/
structure FlagTable where
  rows : List (String × String)
  keyed : (rows.map Prod.fst).Nodup
deriving DecidableEq

/-- The statement of `set_flag`: INSERT, or UPDATE where the key exists. -/
def FlagTable.upsert (table : FlagTable) (key value : String) : FlagTable where
  rows := assign table.rows (key, value)
  keyed := nodup_assign table.keyed (key, value)

def FlagTable.value (table : FlagTable) (key : String) : Option String := table.rows.lookup key

/-- `values` in `_refresh`: the defaults, updated by the rows of the known flags. -/
def refreshedValues (table : FlagTable) : FlagValues :=
  (ofEntries (table.rows.filter fun row => knownFlag row.1)).foldl assign defaults

theorem FlagTable.value_upsert (table : FlagTable) (key value key' : String) :
    (table.upsert key value).value key' = if key' = key then some value else table.value key' :=
  lookup_assign table.rows (key, value) key'

theorem getFlag_refreshedValues {key : String} (known : knownFlag key) (table : FlagTable) :
    getFlag (refreshedValues table) key = (table.value key).or (defaults.lookup key) := by
  have distinct : ((table.rows.filter fun row => knownFlag row.1).map Prod.fst).Nodup :=
    table.keyed.sublist (List.filter_sublist.map Prod.fst)
  unfold getFlag refreshedValues FlagTable.value
  rw [ofEntries_of_nodup distinct, lookup_update distinct, lookup_filter_key, if_pos known]

/-! ## Every flag has a value -/

/-- `get_flag` of a known flag raises no `KeyError`. -/
def FlagValues.Total (values : FlagValues) : Prop :=
  ∀ key, knownFlag key → ∃ value, getFlag values key = some value

theorem defaults_total : FlagValues.Total defaults := by
  intro key known
  unfold knownFlag at known
  unfold getFlag defaults
  generalize flagChoices = flags at known ⊢
  induction flags with
  | nil => cases known
  | cons flag flags ih =>
    rw [lookup_cons_ite] at known
    rw [List.map_cons, lookup_cons_ite]
    split at known
    case isTrue here => exact ⟨flag.2.headD "", if_pos here⟩
    case isFalse there =>
      rw [if_neg there]
      exact ih known

theorem refreshedValues_total (table : FlagTable) : FlagValues.Total (refreshedValues table) := by
  intro key known
  rw [getFlag_refreshedValues known]
  cases table.value key with
  | none => exact defaults_total key known
  | some value => exact ⟨value, rfl⟩

theorem FlagValues.Total.ne_nil {values : FlagValues} (total : values.Total) : values ≠ [] := by
  intro empty
  obtain ⟨value, found⟩ := total "user_name_write_mode" rfl
  rw [empty] at found
  cases found

/-! ## The endpoint -/

/-- A known flag and one of its values: "Caller validates key/value against FLAG_CHOICES". -/
structure FlagChange where
  key : String
  value : String
  valid : ∃ choices, flagChoices.lookup key = some choices ∧ value ∈ choices
deriving DecidableEq

theorem FlagChange.known (change : FlagChange) : knownFlag change.key := by
  obtain ⟨choices, found, -⟩ := change.valid
  unfold knownFlag
  rw [found]
  rfl

/-- The `HTTPException` of a refused change. -/
structure FlagException where
  statusCode : ℕ
  detail : String
deriving DecidableEq

/-- The checks of `update_flag` before it calls `set_flag`. -/
def checkFlag (key value : String) : Except FlagException FlagChange :=
  match found : flagChoices.lookup key with
  | none => .error ⟨404, "Unknown flag '" ++ key ++ "'"⟩
  | some choices =>
    if allowed : value ∈ choices then .ok ⟨key, value, choices, found, allowed⟩
    else
      .error ⟨400, "Invalid value '" ++ value ++ "' for '" ++ key ++ "'. Allowed: " ++
        ", ".intercalate choices⟩

/-- The endpoint lets exactly the valid changes through, as they are. -/
theorem checkFlag_ok_iff {key value : String} {change : FlagChange} :
    checkFlag key value = .ok change ↔ change.key = key ∧ change.value = value := by
  unfold checkFlag
  constructor
  · intro accepted
    split at accepted
    case h_1 => cases accepted
    case h_2 choices found =>
      split at accepted
      case isTrue => cases accepted; exact ⟨rfl, rfl⟩
      case isFalse => cases accepted
  · rintro ⟨rfl, rfl⟩
    obtain ⟨choices, found, allowed⟩ := change.valid
    split
    case h_1 missing => cases missing.symm.trans found
    case h_2 choices' found' =>
      obtain rfl := Option.some.inj (found'.symm.trans found)
      rw [dif_pos allowed]

example : checkFlag "user_name_read_source" "dual" = .error ⟨400,
    "Invalid value 'dual' for 'user_name_read_source'. Allowed: legacy, new"⟩ := by rfl

end TicketBooking
