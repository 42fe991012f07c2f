import TicketBooking.Lib.BijectiveDigits
import TicketBooking.Lib.RangePages
import TicketBooking.Lib.Words
import Mathlib.Data.String.Basic

/-!
# The seat map and the seeder

`rowName` and `renderGrid` of `frontend/app/seats/seats.js` and `_seat_label` of `seed.py`: two
implementations of seat names, eighteen seats in a row, with rows named A to Z, AA, AB and so on.
The map draws six rows at a time.  Numbers are integers here; JavaScript is exact on them up to
2^53.
-/

namespace TicketBooking

open BijectiveDigits RangePages

/-! ## The website -/

/-- `SEATS_PER_ROW` -/
def seatsPerRow : ℕ := 18

/-- `ROWS_PER_PAGE` -/
def rowsPerPage : ℕ := 6

/-- The loop of `rowName`. -/
def rowNameLoop (i : ℕ) (s : List Char) : List Char :=
  if i > 0 then rowNameLoop ((i - 1) / 26) (Char.ofNat (65 + (i - 1) % 26) :: s) else s
termination_by i
decreasing_by exact pred_div_lt 26 ‹_›

/-- `rowName` -/
def rowName (i : ℕ) : String := String.ofList (rowNameLoop (i + 1) [])

/-- A row of the grid, with the `data-seat` of its buttons. -/
structure SeatRow where
  label : String
  seats : List String

/-- `totalRows` -/
def totalRows (capacity : ℕ) : ℕ := capacity ⌈/⌉ seatsPerRow

/-- `pages` -/
def rowPages (capacity : ℕ) : ℕ := totalRows capacity ⌈/⌉ rowsPerPage

/-- `renderGrid` -/
def renderGrid (capacity rowPage : ℕ) : List SeatRow :=
  let first := rowPage * rowsPerPage
  let last := min (totalRows capacity) (first + rowsPerPage)
  (List.range' first (last - first)).map fun r =>
    let name := rowName r
    let inRow := min seatsPerRow (capacity - r * seatsPerRow)
    ⟨name, (List.range' 1 inRow).map fun n => name ++ "-" ++ toString n⟩

/-! ## The seeder -/

/-- The loop of `_seat_label`: `row, rem = divmod(row - 1, 26)`. -/
def seatLabelLoop (row : ℕ) (letters : List Char) : List Char :=
  if row > 0 then
    seatLabelLoop ((row - 1) / 26) (Char.ofNat (65 + (row - 1) % 26) :: letters)
  else letters
termination_by row
decreasing_by exact pred_div_lt 26 ‹_›

/-- `_seat_label`: `row, seat = divmod(index - 1, 18)`. -/
def seatLabel (index : ℕ) : String :=
  let row := (index - 1) / 18
  let seat := (index - 1) % 18
  String.ofList (seatLabelLoop (row + 1) []) ++ "-" ++ toString (seat + 1)

/-! ## Row names -/

/-- The letter of a digit. -/
def rowLetter (d : ℕ) : Char := Char.ofNat (65 + d)

/-- The letters of a row number, which counts from 1. -/
def rowLetters (row : ℕ) : List Char := (digits 26 row).map rowLetter

theorem rowLetters_zero : rowLetters 0 = [] := by
  rw [rowLetters, digits_zero, List.map_nil]

theorem rowLetters_of_pos {row : ℕ} (positive : 0 < row) :
    rowLetters row = rowLetters ((row - 1) / 26) ++ [rowLetter ((row - 1) % 26)] := by
  rw [rowLetters, digits_of_pos positive, List.map_append, List.map_singleton, rowLetters]

/-- The loop of the website writes the digits from the right. -/
theorem rowNameLoop_eq (i : ℕ) (s : List Char) : rowNameLoop i s = rowLetters i ++ s := by
  induction i, s using rowNameLoop.induct with
  | case1 i s positive ih =>
    rw [rowNameLoop, if_pos positive, ih, rowLetters_of_pos positive, List.append_assoc]
    rfl
  | case2 i s done =>
    have zero : i = 0 := by omega
    rw [rowNameLoop, if_neg done, zero, rowLetters_zero, List.nil_append]

/-- So does the loop of the seeder. -/
theorem seatLabelLoop_eq (row : ℕ) (letters : List Char) :
    seatLabelLoop row letters = rowLetters row ++ letters := by
  induction row, letters using seatLabelLoop.induct with
  | case1 row letters positive ih =>
    rw [seatLabelLoop, if_pos positive, ih, rowLetters_of_pos positive, List.append_assoc]
    rfl
  | case2 row letters done =>
    have zero : row = 0 := by omega
    rw [seatLabelLoop, if_neg done, zero, rowLetters_zero, List.nil_append]

theorem rowName_eq (i : ℕ) : rowName i = String.ofList (rowLetters (i + 1)) := by
  rw [rowName, rowNameLoop_eq, List.append_nil]

/-- Different rows have different letters. -/
theorem rowLetters_injective : Function.Injective rowLetters := by
  refine map_digits_injective (fun c => c.toNat - 65) (by decide) ?_
  decide

/-- A row name has no hyphen. -/
theorem hyphen_not_mem_rowLetters (row : ℕ) : '-' ∉ rowLetters row := by
  intro mem
  obtain ⟨d, inDigits, same⟩ := List.mem_map.mp mem
  have letters : ∀ d < 26, rowLetter d ≠ '-' := by decide
  exact letters d (digits_lt (by decide) d inDigits) same

/-! ## Labels -/

theorem seatLabel_eq (index : ℕ) : seatLabel index =
    rowName ((index - 1) / 18) ++ "-" ++ toString ((index - 1) % 18 + 1) := by
  rw [seatLabel, rowName_eq, seatLabelLoop_eq, List.append_nil]

theorem toList_seatLabel (index : ℕ) : (seatLabel index).toList =
    rowLetters ((index - 1) / 18 + 1) ++ '-' :: (toString ((index - 1) % 18 + 1)).toList := by
  rw [seatLabel_eq, rowName_eq, String.toList_append, String.toList_append, String.toList_ofList,
    List.append_assoc]
  rfl

/-- **Different seats have different labels.** -/
theorem seatLabel_injective {i j : ℕ} (i_pos : 1 ≤ i) (j_pos : 1 ≤ j)
    (same : seatLabel i = seatLabel j) : i = j := by
  have chars := congrArg String.toList same
  rw [toList_seatLabel, toList_seatLabel] at chars
  have solid : ∀ row, ∀ c ∈ rowLetters row, (c == '-') = false := fun row c mem =>
    beq_eq_false_iff_ne.mpr fun hyphen => hyphen_not_mem_rowLetters row (hyphen ▸ mem)
  -- the row is what stands before the hyphen
  have parts := congrArg (Words.splitFirst (· == '-')) chars
  rw [Words.splitFirst_append_cons _ (solid _) (by decide),
    Words.splitFirst_append_cons _ (solid _) (by decide)] at parts
  have letters := congrArg Prod.fst parts
  have row := rowLetters_injective letters
  rw [row, List.append_cancel_left_eq, List.cons.injEq, String.toList_inj] at chars
  have seats : ∀ a < 18, ∀ b < 18, toString (a + 1) = toString (b + 1) → a = b := by decide
  have seat := seats _ (Nat.mod_lt _ (by decide)) _ (Nat.mod_lt _ (by decide)) chars.2
  omega

/-! ## The map -/

/-- The seats of a row, by their number in the zone. -/
theorem rowSeats_eq (capacity r : ℕ) :
    ((List.range' 1 (min seatsPerRow (capacity - r * seatsPerRow))).map fun n =>
      rowName r ++ "-" ++ toString n) =
    (page capacity seatsPerRow r).map fun k => seatLabel (k + 1) := by
  rw [page, List.range'_eq_map_range, List.range'_eq_map_range, List.map_map, List.map_map]
  refine List.map_congr_left fun n inRow => ?_
  have short : n < 18 := by
    have bound := List.mem_range.mp inRow
    rw [seatsPerRow] at bound
    omega
  have row : (r * seatsPerRow + n + 1 - 1) / 18 = r := by
    rw [seatsPerRow]
    omega
  have seat : (r * seatsPerRow + n + 1 - 1) % 18 = n := by
    rw [seatsPerRow]
    omega
  simp only [Function.comp, seatLabel_eq, row, seat, Nat.add_comm 1 n]

/-- A page of the grid. -/
theorem renderGrid_eq (capacity rowPage : ℕ) : renderGrid capacity rowPage =
    (page (totalRows capacity) rowsPerPage rowPage).map fun r =>
      ⟨rowName r, (page capacity seatsPerRow r).map fun k => seatLabel (k + 1)⟩ := by
  have count : min (totalRows capacity) (rowPage * rowsPerPage + rowsPerPage) -
      rowPage * rowsPerPage = min rowsPerPage (totalRows capacity - rowPage * rowsPerPage) := by
    omega
  rw [renderGrid, count, page]
  refine List.map_congr_left fun r _ => ?_
  rw [← rowSeats_eq]

/-- All pages, one after the other. -/
theorem drawnSeats_eq (capacity : ℕ) :
    ((List.range (rowPages capacity)).flatMap fun rowPage =>
      (renderGrid capacity rowPage).flatMap SeatRow.seats) =
    (List.range' 1 capacity).map seatLabel := by
  have drawn : ∀ rowPage, (renderGrid capacity rowPage).flatMap SeatRow.seats =
      (page (totalRows capacity) rowsPerPage rowPage).flatMap fun r =>
        (page capacity seatsPerRow r).map fun k => seatLabel (k + 1) := by
    intro rowPage
    rw [renderGrid_eq, List.flatMap_map]
  calc ((List.range (rowPages capacity)).flatMap fun rowPage =>
        (renderGrid capacity rowPage).flatMap SeatRow.seats)
      = (List.range (totalRows capacity)).flatMap fun r =>
          (page capacity seatsPerRow r).map fun k => seatLabel (k + 1) := by
        rw [← flatMap_pages (totalRows capacity) (show 0 < rowsPerPage by decide),
          List.flatMap_assoc]
        exact List.flatMap_congr fun rowPage _ => drawn rowPage
    _ = (List.range capacity).map fun k => seatLabel (k + 1) := by
        rw [← flatMap_pages capacity (show 0 < seatsPerRow by decide), List.map_flatMap]
        rfl
    _ = (List.range' 1 capacity).map seatLabel := by
        rw [List.range'_eq_map_range, List.map_map]
        refine List.map_congr_left fun k _ => ?_
        rw [Function.comp, Nat.add_comm]

/-- **The seat map and the seeder name the same seats.** -/
theorem seat_map_matches_seeder (capacity : ℕ) :
    (∀ rowPage < rowPages capacity, renderGrid capacity rowPage ≠ [] ∧
      ∀ row ∈ renderGrid capacity rowPage, row.seats ≠ []) ∧
    ((List.range (rowPages capacity)).flatMap fun rowPage =>
      (renderGrid capacity rowPage).flatMap SeatRow.seats) =
        (List.range' 1 capacity).map seatLabel ∧
    ((List.range' 1 capacity).map seatLabel).Nodup ∧
    ∀ i j, 1 ≤ i → 1 ≤ j → seatLabel i = seatLabel j → i = j := by
  refine ⟨fun rowPage inside => ⟨?_, ?_⟩, ?_, ?_, ?_⟩
  · rw [renderGrid_eq]
    intro empty
    exact page_ne_nil (by decide) inside (List.map_eq_nil_iff.mp empty)
  · rw [renderGrid_eq]
    intro row drawn
    obtain ⟨r, mem, rfl⟩ := List.mem_map.mp drawn
    intro empty
    exact page_ne_nil (by decide) (lt_of_mem_page mem) (List.map_eq_nil_iff.mp empty)
  · exact drawnSeats_eq capacity
  · refine List.Nodup.map_on (fun i memI j memJ same => ?_) List.nodup_range'
    exact seatLabel_injective (List.mem_range'_1.mp memI).1 (List.mem_range'_1.mp memJ).1 same
  · exact fun i j i_pos j_pos same => seatLabel_injective i_pos j_pos same

example : [rowName 0, rowName 25, rowName 26] = ["A", "Z", "AA"] := by decide +kernel

example : [seatLabel 1, seatLabel 18, seatLabel 19] = ["A-1", "A-18", "B-1"] := by decide +kernel

end TicketBooking
