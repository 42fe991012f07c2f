import TicketBooking.Text
import Mathlib.Logic.Function.Basic

/-!
# The verification checks of the name migration

`parse_checks` reads the file of verification queries line by line: marker lines `-- @key value`
fill a header, SQL lines a body, and the first SQL line that ends with a semicolon turns both into a
check.  A text is the list of its characters here, and a file the list of the lines its handle
yields.

* `MarkerLine`, `SqlLine` and `Block` are the parts of a well-formed file as they are written, with
  the white space a writer is free to choose; `Commented` inserts blank lines and comments.
* `matchMarker_eq_some`: the lines the parser takes for markers are exactly the marker lines.
* `foldl_parseLine_block`: from any state a block appends its own check and leaves nothing behind.
* `parseChecks_written`: the checks of a file are those of its blocks, in order.
-/

namespace TicketBooking

open Words

/-! ## The program -/

/-- The keys of a marker line, in the order of the alternation. -/
inductive MarkerKey
  | name | stages | expect | what | skipWhen
deriving DecidableEq

def MarkerKey.text : MarkerKey → List Char
  | .name => ['n', 'a', 'm', 'e']
  | .stages => ['s', 't', 'a', 'g', 'e', 's']
  | .expect => ['e', 'x', 'p', 'e', 'c', 't']
  | .what => ['w', 'h', 'a', 't']
  | .skipWhen => ['s', 'k', 'i', 'p', '_', 'w', 'h', 'e', 'n']

def MarkerKey.all : List MarkerKey := [.name, .stages, .expect, .what, .skipWhen]

/-- `\s+(.*)$`, the group. -/
def matchValue : List Char → Option (List Char)
  | [] => none
  | c :: rest =>
    let value := rest.dropWhile isSpace
    if isSpace c ∧ '\n' ∉ value then some value else none

/-- `re.match(r"--\s*@(name|stages|expect|what|skip_when)\s+(.*)$", line)`, its groups. -/
def matchMarker (line : List Char) : Option (MarkerKey × List Char) := do
  let rest ← "--".toList.isPrefixOf? line
  let rest ← "@".toList.isPrefixOf? (rest.dropWhile isSpace)
  MarkerKey.all.findSome? fun key => do
    let rest ← key.text.isPrefixOf? rest
    let value ← matchValue rest
    return (key, value)

@[ext] structure Check where
  name : List Char
  stages : List (List Char)
  expect : List Char
  what : List Char
  sql : List Char
  skipWhen : List Char
deriving DecidableEq

/-- The dictionary `header`. -/
abbrev Header := MarkerKey → Option (List Char)

/-- `header.get("name")` is true. -/
def Header.named (header : Header) : Bool := (header .name).any (· ≠ [])

/-- The local variables of `parse_checks`. -/
@[ext] structure ParseState where
  checks : List Check
  header : Header
  body : List (List Char)

/-- `header[key] = value.strip()`, where a name starts a new block. -/
def ParseState.mark (s : ParseState) (key : MarkerKey) (value : List Char) : ParseState :=
  let s := if key = .name then { s with header := fun _ => none, body := [] } else s
  { s with header := Function.update s.header key (some (stripChars value)) }

/-- The check of a header and a body. -/
def Check.ofBlock (header : Header) (body : List (List Char)) : Check where
  name := (header .name).getD []
  stages := words isSpace ((header .stages).getD "-".toList)
  expect := (header .expect).getD "info".toList
  what := (header .what).getD []
  sql := (['\n'].intercalate body).rdropWhile (· = ';')
  skipWhen := (header .skipWhen).getD []

/-- `body.append(line)`, and the check when the line ends the statement. -/
def ParseState.append (s : ParseState) (line : List Char) : ParseState :=
  let body := s.body ++ [line]
  if line.getLast? = some ';' then
    { checks := s.checks ++ [Check.ofBlock s.header body], header := fun _ => none, body := [] }
  else { s with body }

/-- The body of the loop of `parse_checks`. -/
def parseLine (s : ParseState) (raw : List Char) : ParseState :=
  let line := raw.rdropWhile isSpace
  match matchMarker line with
  | some (key, value) => s.mark key value
  | none =>
    if s.header.named = false ∨ stripChars line = [] ∨
        "--".toList.isPrefixOf (line.dropWhile isSpace) then s
    else s.append line

/-- `parse_checks` -/
def parseChecks (lines : List (List Char)) : List Check :=
  (lines.foldl parseLine { checks := [], header := fun _ => none, body := [] }).checks

/-! ## Files as they are written -/

/-- White space only. -/
def Blank (cs : List Char) : Prop := ∀ c ∈ cs, isSpace c = true

-- on the list, not on all characters
instance (cs : List Char) : Decidable (Blank cs) :=
  decidable_of_iff (cs.all isSpace = true) List.all_eq_true

/-- A marker line: its key, its value and the white space around them. -/
structure MarkerLine where
  key : MarkerKey
  value : List Char
  beforeAt : List Char
  afterKey : List Char
  trailing : List Char
  beforeAt_blank : Blank beforeAt
  afterKey_blank : Blank afterKey
  trailing_blank : Blank trailing
  separated : afterKey ≠ []
  stripped : stripChars value = value
  nonempty : value ≠ []
  oneLine : '\n' ∉ value

def MarkerLine.line (m : MarkerLine) : List Char :=
  "--".toList ++ (m.beforeAt ++
    ("@".toList ++ (m.key.text ++ (m.afterKey ++ (m.value ++ m.trailing)))))

/-- `--` after white space, or at the start. -/
def IsComment (cs : List Char) : Prop := "--".toList <+: cs.dropWhile isSpace

instance (cs : List Char) : Decidable (IsComment cs) :=
  inferInstanceAs (Decidable ("--".toList <+: cs.dropWhile isSpace))

/-- A line of a statement: its text and the white space after it. -/
structure SqlLine where
  text : List Char
  trailing : List Char
  trailing_blank : Blank trailing
  rstripped : text.rdropWhile isSpace = text
  nonempty : text ≠ []
  notComment : ¬IsComment text

def SqlLine.line (l : SqlLine) : List Char := l.text ++ l.trailing

/-- A check as it is written: the name, the other markers, the statement. -/
structure Block where
  name : MarkerLine
  markers : List MarkerLine
  init : List SqlLine
  last : SqlLine
  name_key : name.key = .name
  distinct : (markers.map MarkerLine.key).Nodup
  unnamed : .name ∉ markers.map MarkerLine.key
  unfinished : ∀ l ∈ init, l.text.getLast? ≠ some ';'
  finished : last.text.getLast? = some ';'

def Block.lines (b : Block) : List (List Char) :=
  b.name.line :: (b.markers.map MarkerLine.line ++ (b.init.map SqlLine.line ++ [b.last.line]))

/-- The value a marker of the block gives to a key. -/
def valueOf (markers : List MarkerLine) (key : MarkerKey) : Option (List Char) :=
  (markers.find? fun m => m.key = key).map MarkerLine.value

/-- The check a block describes. -/
def Block.check (b : Block) : Check where
  name := b.name.value
  stages := words isSpace ((valueOf b.markers .stages).getD "-".toList)
  expect := (valueOf b.markers .expect).getD "info".toList
  what := (valueOf b.markers .what).getD []
  sql := ['\n'].intercalate (b.init.map SqlLine.text ++ [b.last.text.rdropWhile (· = ';')])
  skipWhen := (valueOf b.markers .skipWhen).getD []

/-- A blank line or a comment that is no marker line. -/
def Ignored (cs : List Char) : Prop := (∀ m : MarkerLine, m.line ≠ cs) ∧ (Blank cs ∨ IsComment cs)

/-- The lines, with blank lines and comments inserted anywhere. -/
inductive Commented : List (List Char) → List (List Char) → Prop
  | nil : Commented [] []
  | line {lines file} (l : List Char) : Commented lines file → Commented (l :: lines) (l :: file)
  | ignored {lines file c} : Ignored c → Commented lines file → Commented lines (c :: file)

/-! ## Marker lines -/

theorem matchValue_eq_some {rest value : List Char} : matchValue rest = some value ↔
    ∃ gap, Blank gap ∧ gap ≠ [] ∧ gap ++ value = rest ∧ value.dropWhile isSpace = value ∧
      '\n' ∉ value := by
  constructor
  · intro matched
    cases rest with
    | nil => cases matched
    | cons c rest =>
      rw [matchValue, Option.ite_none_right_eq_some, Option.some.injEq] at matched
      obtain ⟨⟨space, oneLine⟩, rfl⟩ := matched
      refine ⟨c :: rest.takeWhile isSpace, ?_, List.cons_ne_nil _ _, ?_, ?_, oneLine⟩
      · intro d mem
        rcases List.mem_cons.mp mem with rfl | later
        · exact space
        · exact List.mem_takeWhile_imp later
      · rw [List.cons_append, List.takeWhile_append_dropWhile]
      · exact List.dropWhile_idempotent _ _
  · rintro ⟨gap, blank, nonempty, rfl, leading, oneLine⟩
    cases gap with
    | nil => exact absurd rfl nonempty
    | cons c gap =>
      have dropped : (gap ++ value).dropWhile isSpace = value := by
        rw [List.dropWhile_append_of_pos fun d mem => blank d (List.mem_cons_of_mem c mem), leading]
      rw [List.cons_append, matchValue, dropped]
      exact if_pos ⟨blank c List.mem_cons_self, oneLine⟩

/-- The alternation finds the key that stands there. -/
theorem findSome?_key (key : MarkerKey) {rest value : List Char}
    (matched : matchValue rest = some value) :
    (MarkerKey.all.findSome? fun k => do
      let rest ← k.text.isPrefixOf? (key.text ++ rest)
      let value ← matchValue rest
      return (k, value)) = some (key, value) := by
  cases key <;>
    simp only [MarkerKey.all, MarkerKey.text, List.isPrefixOf?, matched, List.findSome?_cons,
      List.cons_append, List.nil_append, Char.reduceBEq, Bool.false_eq_true, ↓reduceIte,
      Option.bind_eq_bind, Option.bind_some, Option.bind_none, Option.pure_def]

namespace MarkerLine

variable (m : MarkerLine)

theorem leading : m.value.dropWhile isSpace = m.value := (trim_eq_self_iff.mp m.stripped).1

theorem rdropWhile_value : m.value.rdropWhile isSpace = m.value :=
  (trim_eq_self_iff.mp m.stripped).2

/-- The white space after the value is stripped from the line, and nothing else. -/
theorem rdropWhile_line : m.line.rdropWhile isSpace =
    "--".toList ++ (m.beforeAt ++ ("@".toList ++ (m.key.text ++ (m.afterKey ++ m.value)))) := by
  have value : (m.value ++ m.trailing).rdropWhile isSpace = m.value := by
    rw [rdropWhile_append_sep m.value m.trailing_blank, m.rdropWhile_value]
  obtain ⟨start, last, spelled⟩ : ∃ start last, m.value = start ++ [last] :=
    ⟨_, _, (List.dropLast_append_getLast m.nonempty).symm⟩
  have letter : isSpace last = false := by
    have kept := List.rdropWhile_eq_self_iff.mp m.rdropWhile_value m.nonempty
    simpa [spelled] using kept
  rw [line, spelled]
  simp only [← List.append_assoc]
  rw [List.append_assoc _ [last], List.singleton_append, rdropWhile_append_cons _ _ letter]
  rw [List.rdropWhile_eq_nil_iff.mpr m.trailing_blank]

theorem matchMarker_line : matchMarker (m.line.rdropWhile isSpace) = some (m.key, m.value) := by
  have value : matchValue (m.afterKey ++ m.value) = some m.value :=
    matchValue_eq_some.mpr ⟨_, m.afterKey_blank, m.separated, rfl, m.leading, m.oneLine⟩
  have dashes : "--".toList.isPrefixOf? (m.line.rdropWhile isSpace) =
      some (m.beforeAt ++ ("@".toList ++ (m.key.text ++ (m.afterKey ++ m.value)))) :=
    List.isPrefixOf?_eq_some_iff_append_eq.mpr m.rdropWhile_line.symm
  have gap : (m.beforeAt ++ ("@".toList ++ (m.key.text ++ (m.afterKey ++ m.value)))).dropWhile
      isSpace = "@".toList ++ (m.key.text ++ (m.afterKey ++ m.value)) := by
    rw [List.dropWhile_append_of_pos m.beforeAt_blank]
    exact List.dropWhile_cons_of_neg (by decide)
  have sign : "@".toList.isPrefixOf? ("@".toList ++ (m.key.text ++ (m.afterKey ++ m.value))) =
      some (m.key.text ++ (m.afterKey ++ m.value)) :=
    List.isPrefixOf?_eq_some_iff_append_eq.mpr rfl
  rw [matchMarker, dashes, Option.bind_eq_bind, Option.bind_some, gap, sign, Option.bind_some]
  exact findSome?_key m.key value

end MarkerLine

/-- The lines the parser takes for markers are the marker lines. -/
theorem matchMarker_eq_some {raw : List Char} {key : MarkerKey} {value : List Char} :
    matchMarker (raw.rdropWhile isSpace) = some (key, value) ↔
      ∃ m : MarkerLine, m.line = raw ∧ m.key = key ∧ m.value = value := by
  constructor
  · intro matched
    simp only [matchMarker, Option.bind_eq_bind, Option.bind_eq_some_iff] at matched
    obtain ⟨afterDashes, dashes, afterSign, sign, alternation⟩ := matched
    obtain ⟨k, -, found⟩ := List.exists_of_findSome?_eq_some alternation
    simp only [Option.bind_eq_some_iff, Option.pure_def, Option.some.injEq, Prod.mk.injEq] at found
    obtain ⟨rest, spelled, v, matched, rfl, rfl⟩ := found
    obtain ⟨gap, blank, nonempty, rfl, leading, oneLine⟩ := matchValue_eq_some.mp matched
    rw [List.isPrefixOf?_eq_some_iff_append_eq] at dashes sign spelled
    have line : "--".toList ++ (afterDashes.takeWhile isSpace ++
        ("@".toList ++ (k.text ++ (gap ++ v)))) = raw.rdropWhile isSpace := by
      rw [spelled, sign, List.takeWhile_append_dropWhile, dashes]
    have isSuffix : gap ++ v <:+ raw.rdropWhile isSpace :=
      ⟨"--".toList ++ (afterDashes.takeWhile isSpace ++ ("@".toList ++ k.text)), by
        rw [← line]; simp only [List.append_assoc]⟩
    have rstripped : (gap ++ v).rdropWhile isSpace = gap ++ v :=
      rdropWhile_of_suffix (List.rdropWhile_idempotent _ _) isSuffix
    -- a marker without a value would leave a line that ends in white space
    have valued : v ≠ [] := by
      rintro rfl
      rw [List.append_nil, List.rdropWhile_eq_nil_iff.mpr blank] at rstripped
      exact nonempty rstripped.symm
    obtain ⟨trailing, trailingBlank, whole⟩ := exists_rdropWhile_append isSpace raw
    refine ⟨⟨k, v, afterDashes.takeWhile isSpace, gap, trailing,
      fun c mem => List.mem_takeWhile_imp mem, blank, trailingBlank, nonempty,
      trim_eq_self_iff.mpr ⟨leading, rdropWhile_of_suffix rstripped (List.suffix_append gap v)⟩,
      valued, oneLine⟩, ?_, rfl, rfl⟩
    rw [MarkerLine.line, ← whole, ← line]
    simp only [List.append_assoc]
  · rintro ⟨m, rfl, rfl, rfl⟩
    exact m.matchMarker_line

/-! ## One line -/

/-- A comment stays one when the line is stripped. -/
theorem IsComment.rdropWhile {cs : List Char} (comment : IsComment cs) :
    IsComment (cs.rdropWhile isSpace) := by
  obtain ⟨rest, spelled⟩ := comment
  have parts : (cs.takeWhile isSpace ++ ['-']) ++ '-' :: rest = cs := by
    rw [List.append_assoc]
    exact (congrArg _ spelled).trans List.takeWhile_append_dropWhile
  have blank : ∀ c ∈ cs.takeWhile isSpace, isSpace c = true := fun c mem =>
    List.mem_takeWhile_imp mem
  rw [IsComment, ← parts, rdropWhile_append_cons _ _ (by decide), List.append_assoc,
    List.dropWhile_append_of_pos blank]
  exact ⟨rest.rdropWhile isSpace, rfl⟩

theorem MarkerLine.isComment (m : MarkerLine) : IsComment m.line := ⟨_, rfl⟩

/-- A blank line or a comment changes nothing, whatever was read before it. -/
theorem parseLine_ignored (s : ParseState) {raw : List Char} (ignored : Ignored raw) :
    parseLine s raw = s := by
  obtain ⟨notMarker, shape⟩ := ignored
  have unmatched : matchMarker (raw.rdropWhile isSpace) = none := by
    rw [Option.eq_none_iff_forall_ne_some]
    rintro ⟨key, value⟩ matched
    obtain ⟨m, line, -, -⟩ := matchMarker_eq_some.mp matched
    exact notMarker m line
  rw [parseLine, unmatched]
  refine if_pos (Or.inr ?_)
  rcases shape with blank | comment
  · left
    rw [List.rdropWhile_eq_nil_iff.mpr blank]
    rfl
  · right
    exact List.isPrefixOf_iff_prefix.mpr comment.rdropWhile

theorem parseLine_marker (s : ParseState) (m : MarkerLine) :
    parseLine s m.line = s.mark m.key m.value := by
  rw [parseLine, m.matchMarker_line]

namespace SqlLine

variable (l : SqlLine)

theorem rdropWhile_line : l.line.rdropWhile isSpace = l.text := by
  rw [line, rdropWhile_append_sep l.text l.trailing_blank, l.rstripped]

theorem matchMarker_text : matchMarker l.text = none := by
  rw [Option.eq_none_iff_forall_ne_some]
  rintro ⟨key, value⟩ matched
  rw [← l.rdropWhile_line] at matched
  obtain ⟨m, line, -, -⟩ := matchMarker_eq_some.mp matched
  apply l.notComment
  rw [← l.rdropWhile_line, ← line]
  exact m.isComment.rdropWhile

theorem stripChars_text : stripChars l.text ≠ [] := by
  intro empty
  have blank : ∀ c ∈ l.text.dropWhile isSpace, isSpace c = true :=
    List.rdropWhile_eq_nil_iff.mp empty
  have blankText : ∀ c ∈ l.text, isSpace c = true := by
    rw [← List.dropWhile_eq_nil_iff]
    by_contra nonempty
    have letter := List.head_dropWhile_not isSpace nonempty
    rw [blank _ (List.head_mem nonempty)] at letter
    exact Bool.false_ne_true letter.symm
  apply l.nonempty
  rw [← l.rstripped, List.rdropWhile_eq_nil_iff.mpr blankText]

end SqlLine

/-- Under a name, a line of a statement is kept without the white space at its end. -/
theorem parseLine_sql {s : ParseState} (named : s.header.named = true) (l : SqlLine) :
    parseLine s l.line = s.append l.text := by
  rw [parseLine, l.rdropWhile_line, l.matchMarker_text]
  refine if_neg ?_
  rintro (unnamed | blank | comment)
  · exact Bool.false_ne_true (unnamed.symm.trans named)
  · exact l.stripChars_text blank
  · exact l.notComment (List.isPrefixOf_iff_prefix.mp comment)

/-! ## A block -/

/-- The markers of a block fill the header. -/
theorem foldl_parseLine_markers {markers : List MarkerLine} (s : ParseState)
    (distinct : (markers.map MarkerLine.key).Nodup)
    (unnamed : .name ∉ markers.map MarkerLine.key) :
    (markers.map MarkerLine.line).foldl parseLine s =
      { s with header := fun key => (valueOf markers key).or (s.header key) } := by
  induction markers generalizing s with
  | nil => rfl
  | cons m markers ih =>
    rw [List.map_cons, List.nodup_cons] at distinct
    rw [List.map_cons, List.mem_cons, not_or] at unnamed
    have marked : s.mark m.key m.value =
        { s with header := Function.update s.header m.key (some m.value) } := by
      rw [ParseState.mark, if_neg fun name => unnamed.1 name.symm, m.stripped]
    rw [List.map_cons, List.foldl_cons, parseLine_marker, marked, ih _ distinct.2 unnamed.2]
    congr 1
    funext key
    by_cases own : m.key = key
    · subst own
      have absent : valueOf markers m.key = none := by
        rw [valueOf, List.find?_eq_none.mpr, Option.map_none]
        intro other mem same
        exact distinct.1 (List.mem_map.mpr ⟨other, mem, of_decide_eq_true same⟩)
      have present : valueOf (m :: markers) m.key = some m.value := by
        rw [valueOf, List.find?_cons_of_pos (by exact decide_eq_true rfl), Option.map_some]
      simp only [absent, present, Function.update_self, Option.none_or, Option.some_or]
    · have later : valueOf (m :: markers) key = valueOf markers key := by
        rw [valueOf, List.find?_cons_of_neg (by simpa using own), valueOf]
      simp only [later, Function.update_of_ne (Ne.symm own)]

/-- The unfinished lines of a statement are collected. -/
theorem foldl_parseLine_init {init : List SqlLine} {s : ParseState}
    (named : s.header.named = true) (unfinished : ∀ l ∈ init, l.text.getLast? ≠ some ';') :
    (init.map SqlLine.line).foldl parseLine s =
      { s with body := s.body ++ init.map SqlLine.text } := by
  induction init generalizing s with
  | nil => rw [List.map_nil, List.map_nil, List.append_nil, List.foldl_nil]
  | cons l init ih =>
    have unended : s.append l.text = { s with body := s.body ++ [l.text] } :=
      if_neg (unfinished l List.mem_cons_self)
    have rest := ih (s := { s with body := s.body ++ [l.text] }) named
      fun l' mem => unfinished l' (List.mem_cons_of_mem l mem)
    rw [List.map_cons, List.foldl_cons, parseLine_sql named, unended, rest]
    rw [List.map_cons, List.append_assoc, List.singleton_append]

/-- Only the semicolons that end the statement are taken from it. -/
theorem rdropWhile_intercalate (lines : List (List Char)) (last : List Char) :
    (['\n'].intercalate (lines ++ [last])).rdropWhile (· = ';') =
      ['\n'].intercalate (lines ++ [last.rdropWhile (· = ';')]) := by
  induction lines with
  | nil =>
    rw [List.nil_append, List.nil_append, List.intercalate_singleton, List.intercalate_singleton]
  | cons l lines ih =>
    rw [List.cons_append, List.cons_append,
      List.intercalate_cons_of_ne_nil (List.concat_ne_nil _ _),
      List.intercalate_cons_of_ne_nil (List.concat_ne_nil _ _), ← ih, List.append_assoc,
      List.append_assoc, List.singleton_append, List.singleton_append]
    exact rdropWhile_append_cons _ _ (by decide)

/-- The header a block has filled when its statement begins. -/
def Block.header (b : Block) : Header := fun key =>
  (valueOf b.markers key).or (Function.update (fun _ => none) .name (some b.name.value) key)

theorem Block.valueOf_name (b : Block) : valueOf b.markers .name = none := by
  rw [valueOf, List.find?_eq_none.mpr, Option.map_none]
  intro m mem same
  exact b.unnamed (List.mem_map.mpr ⟨m, mem, of_decide_eq_true same⟩)

theorem Block.header_name (b : Block) : b.header .name = some b.name.value := by
  rw [header, valueOf_name, Option.none_or, Function.update_self]

theorem Block.header_of_ne (b : Block) {key : MarkerKey} (other : key ≠ .name) :
    b.header key = valueOf b.markers key := by
  rw [header, Function.update_of_ne other, Option.or_none]

/-- The header and the statement of a block make its check. -/
theorem Block.ofBlock_header (b : Block) :
    Check.ofBlock b.header (b.init.map SqlLine.text ++ [b.last.text]) = b.check := by
  rw [Check.ofBlock, rdropWhile_intercalate, header_name, b.header_of_ne (by decide),
    b.header_of_ne (by decide), b.header_of_ne (by decide), b.header_of_ne (by decide)]
  rfl

/-- Whatever was read before it, a block yields its own check and leaves nothing behind. -/
theorem foldl_parseLine_block (s : ParseState) (b : Block) :
    b.lines.foldl parseLine s =
      { checks := s.checks ++ [b.check], header := fun _ => none, body := [] } := by
  have opened : parseLine s b.name.line =
      { s with
        header := Function.update (fun _ => none) .name (some b.name.value), body := [] } := by
    rw [parseLine_marker, ParseState.mark, b.name_key, b.name.stripped]
    rfl
  have filled : (b.markers.map MarkerLine.line).foldl parseLine (parseLine s b.name.line) =
      { s with header := b.header, body := [] } := by
    rw [opened, foldl_parseLine_markers _ b.distinct b.unnamed]
    rfl
  have named : b.header.named = true := by
    rw [Header.named, b.header_name, Option.any_some]
    exact decide_eq_true b.name.nonempty
  have collected := foldl_parseLine_init (s := { s with header := b.header, body := [] })
    named b.unfinished
  rw [Block.lines, List.foldl_cons, List.foldl_append, filled, List.foldl_append, collected,
    List.foldl_cons, List.foldl_nil, parseLine_sql named]
  rw [ParseState.append, if_pos b.finished, List.nil_append, b.ofBlock_header]

/-! ## A file -/

/-- What is inserted between the lines does not show. -/
theorem Commented.foldl_parseLine {lines file : List (List Char)} (commented : Commented lines file)
    (s : ParseState) : file.foldl parseLine s = lines.foldl parseLine s := by
  induction commented generalizing s with
  | nil => rfl
  | line l _ ih => exact ih (parseLine s l)
  | ignored ignored _ ih => rw [List.foldl_cons, parseLine_ignored s ignored, ih]

/-- Every block adds its check to those read before it. -/
theorem checks_foldl_blocks (blocks : List Block) (s : ParseState) :
    ((blocks.flatMap Block.lines).foldl parseLine s).checks =
      s.checks ++ blocks.map Block.check := by
  induction blocks generalizing s with
  | nil => rw [List.map_nil, List.append_nil, List.flatMap_nil, List.foldl_nil]
  | cons b blocks ih =>
    rw [List.flatMap_cons, List.foldl_append, foldl_parseLine_block, ih, List.map_cons,
      List.append_assoc, List.singleton_append]

/-- The checks of a file are those of its blocks, in order, whatever stands between their lines. -/
theorem parseChecks_written (blocks : List Block) (file : List (List Char))
    (written : Commented (blocks.flatMap Block.lines) file) :
    parseChecks file = blocks.map Block.check := by
  rw [parseChecks, written.foldl_parseLine, checks_foldl_blocks, List.nil_append]

/-- A comment or a blank line the parser does not take for a marker. -/
theorem ignored_of_matchMarker {raw : List Char}
    (unmatched : matchMarker (raw.rdropWhile isSpace) = none) (shape : Blank raw ∨ IsComment raw) :
    Ignored raw := by
  refine ⟨?_, shape⟩
  rintro m rfl
  cases unmatched.symm.trans m.matchMarker_line

namespace CheckSample

def name (value : List Char) (stripped : stripChars value = value) (nonempty : value ≠ [])
    (oneLine : '\n' ∉ value) : MarkerLine where
  key := .name
  value := value
  beforeAt := [' ']
  afterKey := [' ']
  trailing := ['\n']
  beforeAt_blank := by decide
  afterKey_blank := by decide
  trailing_blank := by decide
  separated := by decide
  stripped := stripped
  nonempty := nonempty
  oneLine := oneLine

/-- Two lines, and a stage. -/
def total : Block where
  name := name "total".toList (by decide) (by decide) (by decide)
  markers := [{
    key := .stages, value := "before  after".toList, beforeAt := [], afterKey := [' ', ' ']
    trailing := "  \n".toList, beforeAt_blank := by decide, afterKey_blank := by decide
    trailing_blank := by decide, separated := by decide, stripped := by decide
    nonempty := by decide, oneLine := by decide }]
  init := [{
    text := "SELECT count(*)".toList, trailing := " \n".toList, trailing_blank := by decide
    rstripped := by decide, nonempty := by decide, notComment := by decide }]
  last := {
    text := "  FROM users;".toList, trailing := "\n".toList, trailing_blank := by decide
    rstripped := by decide, nonempty := by decide, notComment := by decide }
  name_key := rfl
  distinct := by decide
  unnamed := by decide
  unfinished := by decide
  finished := by decide

/-- One line that ends with two semicolons. -/
def one : Block where
  name := name "one".toList (by decide) (by decide) (by decide)
  markers := []
  init := []
  last := {
    text := "SELECT 1;;".toList, trailing := [], trailing_blank := by decide
    rstripped := by decide, nonempty := by decide, notComment := by decide }
  name_key := rfl
  distinct := by decide
  unnamed := by decide
  unfinished := by decide
  finished := by decide

end CheckSample

/-- A comment stands before the first block, a marker without a value and a blank line between the
lines of its statement. -/
theorem parseChecks_written_sample :
    parseChecks ["-- Counts.\n".toList, "-- @name total\n".toList,
      "--@stages  before  after  \n".toList, "SELECT count(*) \n".toList, "-- @what\n".toList,
      "\n".toList, "  FROM users;\n".toList, "-- @name one\n".toList, "SELECT 1;;".toList] =
    [CheckSample.total, CheckSample.one].map Block.check := by
  apply parseChecks_written
  apply Commented.ignored (ignored_of_matchMarker (by decide) (Or.inr (by decide)))
  apply Commented.line
  apply Commented.line
  apply Commented.line
  apply Commented.ignored (ignored_of_matchMarker (by decide) (Or.inr (by decide)))
  apply Commented.ignored (ignored_of_matchMarker (by decide) (Or.inl (by decide)))
  apply Commented.line
  apply Commented.line
  apply Commented.line
  exact Commented.nil

/-- More than the final semicolon goes, the white space at the end of a line goes, and a name line
without a name begins no block. -/
theorem parseChecks_not_verbatim :
    (parseChecks ["-- @name one\n".toList, "SELECT 1;;\n".toList]).map Check.sql =
      ["SELECT 1".toList] ∧ "SELECT 1".toList ≠ "SELECT 1;;".toList.dropLast ∧
    (parseChecks
        ["-- @name two\n".toList, "SELECT 1 \n".toList, "FROM t;\n".toList]).map Check.sql =
      ["SELECT 1\nFROM t".toList] ∧ "SELECT 1\nFROM t".toList ≠ "SELECT 1 \nFROM t".toList ∧
    parseChecks ["-- @name\n".toList, "SELECT 1;\n".toList] = [] := by
  decide

end TicketBooking
