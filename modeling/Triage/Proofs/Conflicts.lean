import Triage.Proofs.Influence
import Triage.Proofs.Obstacles
import Triage.Proofs.Pieces
import Triage.Proofs.WireFormat

/-!
# Conflicts

An error about something that exists already tells of its conflicts through its cause: the
message of the cause is cut at every semicolon, and each piece becomes an item. Cutting loses
nothing: the pieces with semicolons between them are the message again
(`FailureItem.isListOf_conflicts`).

Only a cause that was stated counts (`Error.CauseSays`), or what the attributes give for one.
The error that was just being handled is none, so without a stated cause there are no
failures at all.
-/

namespace Triage

open Text

/-! ## Items and the text that they list -/

/-- Whether an item tells of a conflict and of nothing else. -/
structure FailureItem.IsConflict (item : FailureItem) : Prop where
  errorCode : item.errorCode = "Conflict"
  severity : item.severity = .error
  propertyName : item.propertyName = ""
  attemptedValue : item.attemptedValue = ""
  customState : item.customState = ""

/-- The messages of the items are the pieces of a text between its semicolons. -/
structure FailureItem.IsListOf (text : Text) (items : List FailureItem) : Prop where
  joined : Text.joined ";" (items.map (·.errorMessage)) = text
  separate : ∀ item ∈ items, Glyph.char ';' ∉ item.errorMessage.toList
  number : items.length = text.toList.count (Glyph.char ';') + 1
  conflicts : ∀ item ∈ items, item.IsConflict

theorem FailureItem.isListOf_conflicts (text : Text) : IsListOf text (conflicts text) where
  joined := by
    have hpieces : ((conflicts text).map (·.errorMessage)).map Text.toList =
        cutAt (Glyph.char ';') text.toList := by
      simp only [FailureItem.conflicts, List.map_map]
      exact List.map_id _
    apply Text.ext
    rw [toList_joined, hpieces]
    exact intercalate_cutAt (Glyph.char ';') text.toList
  separate := by
    intro item hitem
    obtain ⟨piece, hpiece, rfl⟩ := List.mem_map.mp hitem
    exact notMem_of_mem_cutAt hpiece
  number := by rw [FailureItem.conflicts, List.length_map, length_cutAt]
  conflicts := by
    intro item hitem
    obtain ⟨piece, -, rfl⟩ := List.mem_map.mp hitem
    exact ⟨rfl, rfl, rfl, rfl, rfl⟩

/-! ## On the wire -/

namespace Problem

/-- The failures of a problem stand on the wire under their name, if there are any. -/
theorem field?_failures (p : Problem) :
    p.payload.field? failuresField.wire =
      p.listed (p.failures.map (·.toValue FieldName.wire)) := by
  show Value.lookup? failuresField.wire p.wireFields = _
  rw [wireFields_eq]
  unfold entries
  rw [FieldName.lookup?_spelled_cons_of_ne (by decide),
    FieldName.lookup?_spelled_cons_of_ne (by decide),
    FieldName.lookup?_spelled_cons_of_ne (by decide),
    FieldName.lookup?_spelled_cons_of_ne (by decide),
    FieldName.lookup?_spelled_cons_of_ne (by decide), FieldName.spelled_cons]
  have hothers : Value.lookup? failuresField.wire
      (FieldName.spelled FieldName.wire [(requestIdField, p.requestId.map .text)]) = none :=
    FieldName.lookup?_spelled_eq_none fun e he => by
      obtain rfl := List.mem_singleton.mp he
      exact (by decide : (requestIdField.wire : Text) ≠ failuresField.wire)
  cases p.listed (p.failures.map (·.toValue FieldName.wire)) with
  | none => exact hothers
  | some v => exact if_pos rfl

/-- However it is filled in, a problem shows its failures: each item with its message, in
their order, or nothing where there are none. -/
def ShowsItsFailures (p : Problem) : Prop :=
  ∀ path requestId,
    match (p.withDefaults path requestId).payload.field? "failures" with
    | some shown => p.failures ≠ [] ∧ ∃ items, shown = .list items
        ∧ items.map (·.field? "errorMessage") =
          p.failures.map fun item => some (.text item.errorMessage)
    | none => p.failures = []

theorem showsItsFailures (p : Problem) : p.ShowsItsFailures := by
  intro path requestId
  have hmessage : ∀ item : FailureItem, (item.toValue FieldName.wire).field? "errorMessage" =
      some (.text item.errorMessage) := fun item => rfl
  have hfailures := (p.withDefaults path requestId).field?_failures
  have hsame : (p.withDefaults path requestId).failures = p.failures := rfl
  rw [listed, hsame] at hfailures
  rw [show ("failures" : Text) = failuresField.wire from rfl, hfailures]
  cases hnone : p.failures with
  | nil => rfl
  | cons item items =>
      refine ⟨List.cons_ne_nil _ _, _, rfl, ?_⟩
      simp [hmessage]

end Problem

/-! ## Causes -/

namespace Error

variable {e : Error} {ambient : Value} {development : Bool} {p : Problem}

/-- What the cause of an error says: the message of the error that it was raised from, or
else what its attributes give for a cause. -/
inductive CauseSays (e : Error) : Text → Prop where
  | stated {cause : Error} {text : Text} :
      e.cause = some cause → cause.message = .ok text → CauseSays e text
  | given {a : Attribute} {text : Text} :
      e.cause = none → attribute? causeAttribute e.attributes = some a → a.isNull = false →
        a.asText = .ok text → CauseSays e text

/-- The error has no cause of its own; an error that was being handled is none. -/
def HasNoCause (e : Error) : Prop :=
  e.cause = none ∧ ∀ a, attribute? causeAttribute e.attributes = some a → a.isNull = true

theorem causeMessage?_eq_some_iff {text : Text} :
    e.causeMessage? = .ok (some text) ↔ e.CauseSays text := by
  unfold causeMessage?
  constructor
  · intro h
    cases hcause : e.cause with
    | some cause =>
        simp only [hcause] at h
        obtain ⟨said, hsaid, hsome⟩ := map_eq_ok_iff.mp h
        exact .stated hcause (Option.some.inj hsome ▸ hsaid)
    | none =>
        simp only [hcause] at h
        cases ha : attribute? causeAttribute e.attributes with
        | none => simp [ha] at h
        | some a =>
            cases hnull : a.isNull with
            | true => simp [ha, hnull] at h
            | false =>
                simp only [ha, hnull, Bool.false_eq_true, if_false] at h
                obtain ⟨said, hsaid, hsome⟩ := map_eq_ok_iff.mp h
                exact .given hcause ha hnull
                  (Trouble.ofWords_eq_ok_iff.mp (Option.some.inj hsome ▸ hsaid))
  · rintro (⟨hcause, htext⟩ | ⟨hcause, ha, hnull, htext⟩)
    · simp only [hcause, htext, Except.map]
    · simp only [hcause, ha, hnull, Bool.false_eq_true, if_false]
      exact map_eq_ok_iff.mpr ⟨_, Trouble.ofWords_eq_ok_iff.mpr htext, rfl⟩

theorem causeMessage?_eq_none_iff : e.causeMessage? = .ok none ↔ e.HasNoCause := by
  unfold causeMessage? HasNoCause
  cases e.cause with
  | some cause => cases hsaid : cause.message <;> simp [hsaid, Except.map]
  | none =>
      cases attribute? causeAttribute e.attributes with
      | none => simp
      | some a => cases hnull : a.isNull <;> simp [hnull, map_eq_ok_iff]

/-- All that can come of an error about something that exists already. -/
theorem classify_eq_ok_iff_of_alreadyExists (hkind : e.kind = .alreadyExists) :
    classify e ambient development = .ok p ↔
      ∃ said own, e.causeMessage? = .ok said ∧ e.message = .ok own
        ∧ p = { status := 409, detail := some own
                failures := (said.map FailureItem.conflicts).getD [] } := by
  have hclass : classify e ambient development = e.conflicts >>= openly e 409 := by
    unfold classify
    rw [hkind]
  rw [hclass, bind_eq_ok_iff]
  constructor
  · rintro ⟨failures, hconflicts, hopenly⟩
    obtain ⟨said, hsaid, rfl⟩ := map_eq_ok_iff.mp hconflicts
    obtain ⟨own, hown, rfl⟩ := map_eq_ok_iff.mp hopenly
    exact ⟨said, own, hsaid, hown, rfl⟩
  · rintro ⟨said, own, hsaid, hown, rfl⟩
    exact ⟨_, map_eq_ok_iff.mpr ⟨said, hsaid, rfl⟩, map_eq_ok_iff.mpr ⟨own, hown, rfl⟩⟩

/-- **The conflicts are the cause's message, piece by piece.** An error about something that
exists already lists the pieces of what its cause says, if it has one, and nothing
otherwise; and there is no problem without a message of the error and of the cause. -/
theorem conflicts_reassemble_the_cause (e : Error) (hkind : e.kind = .alreadyExists)
    (ambient : Value) (development : Bool) :
    (∀ text own, e.CauseSays text → e.message = .ok own →
      ∃ p, classify e ambient development = .ok p
        ∧ FailureItem.IsListOf text p.failures ∧ p.ShowsItsFailures)
    ∧ (∀ own, e.HasNoCause → e.message = .ok own →
      ∃ p, classify e ambient development = .ok p ∧ p.failures = [] ∧ p.ShowsItsFailures)
    ∧ ∀ p, classify e ambient development = .ok p →
        ((∃ text, e.CauseSays text) ∨ e.HasNoCause) ∧ ∃ own, e.message = .ok own := by
  refine ⟨fun text own hcause hown => ?_, fun own hcause hown => ?_, fun p hp => ?_⟩
  · refine ⟨_, (classify_eq_ok_iff_of_alreadyExists hkind).mpr
      ⟨some text, own, causeMessage?_eq_some_iff.mpr hcause, hown, rfl⟩, ?_,
      Problem.showsItsFailures _⟩
    exact FailureItem.isListOf_conflicts text
  · exact ⟨_, (classify_eq_ok_iff_of_alreadyExists hkind).mpr
      ⟨none, own, causeMessage?_eq_none_iff.mpr hcause, hown, rfl⟩, rfl,
      Problem.showsItsFailures _⟩
  · obtain ⟨said, own, hsaid, hown, -⟩ := (classify_eq_ok_iff_of_alreadyExists hkind).mp hp
    refine ⟨?_, own, hown⟩
    cases said with
    | some text => exact Or.inl ⟨text, causeMessage?_eq_some_iff.mp hsaid⟩
    | none => exact Or.inr (causeMessage?_eq_none_iff.mp hsaid)

/-- A user that exists already, raised from a key that tells of an empty conflict between
two others. -/
def takenUser : Error :=
  { Error.ofService .alreadyExists (some (.text "User exists")) with
    cause := some (.ofCommon .keyError [.text "email taken;;name taken"])
    context := some (.ofCommon .valueError [.text "one;two"]) }

theorem takenUser_lists_three_conflicts :
    takenUser.kind = .alreadyExists
      ∧ takenUser.CauseSays "email taken;;name taken"
      ∧ ∃ p, classify takenUser (.int 200) false = .ok p
        ∧ FailureItem.IsListOf "email taken;;name taken" p.failures
        ∧ p.failures.map (·.errorMessage) = ([↑"email taken", ↑"", ↑"name taken"] : List Text) := by
  have hcause : takenUser.CauseSays "email taken;;name taken" := .stated rfl rfl
  obtain ⟨hlists, -, -⟩ := conflicts_reassemble_the_cause takenUser rfl (.int 200) false
  obtain ⟨p, hp, hlist, -⟩ := hlists _ "User exists" hcause rfl
  refine ⟨rfl, hcause, p, hp, hlist, ?_⟩
  obtain ⟨said, own, hsaid, hown, rfl⟩ := (classify_eq_ok_iff_of_alreadyExists rfl).mp hp
  rw [causeMessage?_eq_some_iff.mpr hcause] at hsaid
  obtain rfl := Except.ok.inj hsaid
  exact (by decide +kernel : (FailureItem.conflicts "email taken;;name taken").map
    (·.errorMessage) = ([↑"email taken", ↑"", ↑"name taken"] : List Text))

end Error

end Triage
