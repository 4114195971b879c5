import Assay.Proofs.Acceptance
import Assay.Proofs.Checks

/-!
# Outcomes of array rules

The outcome of an array rule is told by the calls that made its bounds and by the outcomes of its
items. Of the calls that set one bound, the last one counts. Length and items are checked apart
from each other, so an array of a wrong length still has the issues of all its items.

* `ItemBounds.ofCalls_eq`: the bounds that a chain of calls makes;
* `array_outcome`: the whole outcome.
-/

namespace Assay

/-! ### Chains of calls -/

namespace ItemCall

/-- The least length that a call sets. -/
def least? : ItemCall → Option Nat
  | minItems least => some least
  | maxItems _ => none

/-- The greatest length that a call sets. -/
def greatest? : ItemCall → Option Nat
  | minItems _ => none
  | maxItems greatest => some greatest

/-- The least length that is set last. -/
def lastLeast (calls : List ItemCall) : Option Nat := (calls.filterMap least?).getLast?

/-- The greatest length that is set last. -/
def lastGreatest (calls : List ItemCall) : Option Nat := (calls.filterMap greatest?).getLast?

end ItemCall

theorem ItemBounds.ofCalls_concat (calls : List ItemCall) (c : ItemCall) :
    ofCalls (calls ++ [c]) = (ofCalls calls).call c := by
  simp [ofCalls]

/-- Each bound is the one that is set last. -/
theorem ItemBounds.ofCalls_eq (calls : List ItemCall) :
    ofCalls calls = ⟨ItemCall.lastLeast calls, ItemCall.lastGreatest calls⟩ := by
  induction calls using List.reverseRecOn with
  | nil => rfl
  | append_singleton calls c ih =>
    rw [ofCalls_concat, ih]
    cases c <;>
      simp [call, ItemCall.lastLeast, ItemCall.lastGreatest, ItemCall.least?, ItemCall.greatest?]

/-- The issues of a length, by the bounds that are set last. -/
theorem ItemBounds.issues_ofCalls (calls : List ItemCall) (length : Nat) :
    (ofCalls calls).issues length =
      ((ItemCall.lastLeast calls).filter (length < ·)).toList.map tooFew ++
        ((ItemCall.lastGreatest calls).filter (· < length)).toList.map tooMany := by
  rw [ofCalls_eq, issues]
  congr 1
  · cases ItemCall.lastLeast calls with
    | none => rfl
    | some least => by_cases h : length < least <;> simp [Option.filter, h]
  · cases ItemCall.lastGreatest calls with
    | none => rfl
    | some greatest => by_cases h : greatest < length <;> simp [Option.filter, h]

namespace Rule

/-! ### The whole outcome -/

/-- **The outcome of an array rule.** An input that is no array is refused by one issue. An array
is accepted when its length is within the bounds that were set last and the item rule accepts
every item; the output then has the outputs of the items in their order. The issues of an array
that is refused are one for a length below the least, one for a length above the greatest, and
then those of all items in ascending order, each at its place. -/
theorem array_outcome (item : Rule) (calls : List ItemCall) :
    (∀ input : Json, input.kind ≠ .array → (array item (.ofCalls calls)).parse input =
      .failure (.single (.invalidType "array" input))) ∧
    ∀ items : List Json,
      ((∃ output, (array item (.ofCalls calls)).parse (.array items) = .success output) ↔
        ((∀ least ∈ ItemCall.lastLeast calls, least ≤ items.length) ∧
          ∀ greatest ∈ ItemCall.lastGreatest calls, items.length ≤ greatest) ∧
        ∀ x ∈ items, ∃ output, item.parse x = .success output) ∧
      (∀ output, (array item (.ofCalls calls)).parse (.array items) = .success output →
        ∃ outputs, output = .array outputs ∧ outputs.length = items.length ∧
          List.Forall₂ (fun x output => item.parse x = .success output) items outputs) ∧
      ∀ d, (array item (.ofCalls calls)).parse (.array items) = .failure d →
        d.toList =
          ((ItemCall.lastLeast calls).filter (items.length < ·)).toList.map ItemBounds.tooFew ++
          ((ItemCall.lastGreatest calls).filter (· < items.length)).toList.map
            ItemBounds.tooMany ++
          items.zipIdx.flatMap fun x => (item.parse x.1).issues.map (Issue.under (.index x.2)) := by
  refine ⟨fun input hkind => ?_, fun items => ⟨?_, fun output h => ?_, fun d h => ?_⟩⟩
  · cases input with
    | array items => exact absurd rfl hkind
    | _ => rfl
  · constructor
    · rintro ⟨output, h⟩
      obtain ⟨_, outputs, ⟨rfl⟩, rfl, hlength, hall⟩ := parse_array_eq_success.1 h
      rw [ItemBounds.ofCalls_eq, ItemBounds.issues_eq_nil] at hlength
      exact ⟨hlength, exists_forall₂_iff.1 ⟨outputs, hall⟩⟩
    · rintro ⟨hlength, hitems⟩
      obtain ⟨outputs, hall⟩ := exists_forall₂_iff.2 hitems
      have hmet : (ItemBounds.ofCalls calls).Met items.length := by
        rw [ItemBounds.ofCalls_eq]
        exact hlength
      exact ⟨_, parse_array_eq_success.2
        ⟨items, outputs, rfl, rfl, ItemBounds.issues_eq_nil.2 hmet, hall⟩⟩
  · obtain ⟨_, outputs, ⟨rfl⟩, rfl, -, hall⟩ := parse_array_eq_success.1 h
    exact ⟨outputs, rfl, hall.length_eq.symm, hall⟩
  · rw [← Validation.issues_failure (α := Output), ← h, issues_array, ItemBounds.issues_ofCalls]

/-- Calls that replace the bounds 1 and 9 by bounds that no length meets. -/
def contradictoryCalls : List ItemCall := [.minItems 1, .maxItems 9, .maxItems 2, .minItems 4]

/-- Three items, the last two of which are not positive integers. -/
def threeItems : List Json :=
  [.number (.whole 8 rfl), .string "8", .number (.whole (-8) rfl)]

/-- Three items are too few and too many for these bounds, and the items are checked nevertheless.
With a lower bound set in place of 4, an array of one item is accepted. -/
theorem array_outcome_contradictory :
    Json.kind .null ≠ .array ∧
      (array (integer ⟨[.gt 0]⟩) (.ofCalls contradictoryCalls)).parse .null =
        .failure (.single (.invalidType "array" .null)) ∧
      ∃ d, (array (integer ⟨[.gt 0]⟩) (.ofCalls contradictoryCalls)).parse (.array threeItems) =
          .failure d ∧
        d.toList =
          [⟨.tooSmall "4" true, "Too small: expected array to have >=4 items", []⟩,
           ⟨.tooBig "2" true, "Too big: expected array to have <=2 items", []⟩,
           ⟨.invalidType "integer" .string, "Invalid input: expected integer, received string",
             [.index 1]⟩,
           ⟨.tooSmall "0" false, "Too small: expected number to be >0", [.index 2]⟩] ∧
        ∃ outputs, (array (integer ⟨[.gt 0]⟩)
            (.ofCalls (contradictoryCalls ++ [.minItems 1]))).parse (.array (threeItems.take 1)) =
              .success (.array outputs) ∧
          outputs.length = (threeItems.take 1).length := by
  have hnull : Json.kind .null ≠ .array := by decide
  obtain ⟨hother, harray⟩ := array_outcome (integer ⟨[.gt 0]⟩) contradictoryCalls
  obtain ⟨-, -, hfailure⟩ := harray threeItems
  obtain ⟨-, houtput, -⟩ := (array_outcome (integer ⟨[.gt 0]⟩)
    (contradictoryCalls ++ [.minItems 1])).2 (threeItems.take 1)
  obtain ⟨_, ⟨rfl⟩, hlength, -⟩ := houtput (.array [.integer 8]) rfl
  cases h : (array (integer ⟨[.gt 0]⟩) (.ofCalls contradictoryCalls)).parse
      (.array threeItems) with
  | success output => cases h
  | failure d =>
    refine ⟨hnull, hother _ hnull, d, rfl, ?_, [.integer 8], rfl, hlength⟩
    rw [hfailure d h]
    rfl

end Rule
end Assay
