import Triage.Proofs.Concealment
import Triage.Proofs.Succeeding

/-!
# What a classification depends on

A problem comes from the kind of the error, the error itself, the status so far and
whether this is development; which of these matters depends on the kind alone
(`classify_influences`). Every builder of problems fills in the status, the detail
and perhaps the failures, and leaves the rest open (`Problem.IsSketch`). The status
is an error status in any case, also where it stems from a number that was attached to
the error: such a number is taken only where it is whole, so comparing it with the
ends of the range says all about it (`Number.Binary64.truncate?_mem`).
-/

namespace Triage

open Number

/-! ## Statuses -/

namespace Number.Binary64

/-- A number without anything after its point is the whole number before it. -/
theorem signedRatio_of_isWhole {negative : Bool} {m : Nat} {e n : Int}
    (hwhole : (finite negative m e).isWhole = true)
    (hn : (finite negative m e).truncate? = some n) :
    (signedRatio negative m e).1 = n * (signedRatio negative m e).2 := by
  have hdvd : (ratio m e).1 / (ratio m e).2 * (ratio m e).2 = (ratio m e).1 :=
    Nat.div_mul_cancel (Nat.dvd_of_mod_eq_zero (by simpa [isWhole] using hwhole))
  have hcast : ((ratio m e).1 / (ratio m e).2 : Nat) * ((ratio m e).2 : Int) = (ratio m e).1 := by
    exact_mod_cast hdvd
  obtain rfl := Option.some.inj hn
  cases negative with
  | false => exact hcast.symm
  | true =>
      show -((ratio m e).1 : Int) = -((ratio m e).1 / (ratio m e).2 : Nat) * (ratio m e).2
      rw [← hcast, Int.neg_mul]

theorem compareInt_finite (negative : Bool) (m : Nat) (e n : Int) :
    (finite negative m e).compareInt n =
      some (compare (signedRatio negative m e).1 (n * (signedRatio negative m e).2)) := rfl

/-- A whole number that stands neither below `low` nor above `high` is between them. -/
theorem truncate?_mem {x : Binary64} {low high n : Int} (hlow : x.compareInt low ≠ some .lt)
    (hhigh : x.compareInt high ≠ some .gt) (hwhole : x.isWhole = true)
    (hn : x.truncate? = some n) : low ≤ n ∧ n ≤ high := by
  cases x with
  | nan => cases hn
  | infinite negative => cases hn
  | finite negative m e =>
      have hpos : (0 : Int) < (signedRatio negative m e).2 := by exact_mod_cast twoTo_pos _
      rw [compareInt_finite, signedRatio_of_isWhole hwhole hn] at hlow hhigh
      constructor
      · refine Int.not_lt.mp fun h => hlow (congrArg some (Int.compare_eq_lt.mpr ?_))
        exact Int.mul_lt_mul_of_pos_right h hpos
      · refine Int.not_lt.mp fun h => hhigh (congrArg some (Int.compare_eq_gt.mpr ?_))
        exact Int.mul_lt_mul_of_pos_right h hpos

/-- What is taken as a whole number has nothing after its point. -/
theorem isWhole_of_checkWhole {x : Binary64} {n : Int} (h : x.checkWhole = .ok n) :
    x.isWhole = true ∧ x.truncate? = some n := by
  unfold checkWhole at h
  cases hn : x.truncate? with
  | none => simp [hn] at h
  | some k =>
      cases hwhole : x.isWhole with
      | false => simp [hn, hwhole] at h
      | true =>
          simp only [hn, hwhole, Bool.not_true, Bool.false_eq_true, if_false] at h
          split at h
          · exact ⟨rfl, congrArg some (Except.ok.inj h)⟩
          · cases h

end Number.Binary64

/-- Whether a status tells of an error. -/
def IsErrorStatus (status : Int) : Prop := 400 ≤ status ∧ status ≤ 599

theorem isErrorStatus_500 : IsErrorStatus 500 := ⟨by decide, by decide⟩

/-- An error status is kept, anything else is an unexpected failure. -/
theorem errorStatus_eq (n : Int) :
    errorStatus n = if 400 ≤ n ∧ n ≤ 599 then n else 500 := by
  unfold errorStatus
  by_cases h : 400 ≤ n ∧ n ≤ 599
  · rw [if_neg (by omega), if_pos h]
  · rw [if_pos (by omega), if_neg h]

theorem isErrorStatus_errorStatus (n : Int) : IsErrorStatus (errorStatus n) := by
  unfold errorStatus IsErrorStatus
  split <;> omega

/-- Whether a number stands outside the error statuses; what is no number does not. -/
def Number.Binary64.isOutside (x : Binary64) : Bool :=
  x.compareInt 400 == some .lt || x.compareInt 599 == some .gt

theorem normalizeStatus_float (x : Binary64) :
    normalizeStatus (.float x) = .ok (if x.isOutside then .int 500 else .float x) := rfl

theorem checkStatus_eq_ok_iff {v : Value} {n : Int} :
    checkStatus v = .ok n ↔ v.checkWhole = .ok n := by
  unfold checkStatus
  cases v.checkWhole <;> simp

theorem problemStatus_eq_ok_iff {v : Value} {n : Int} :
    problemStatus v = .ok n ↔ ∃ w, normalizeStatus v = .ok w ∧ checkStatus w = .ok n := by
  unfold problemStatus
  cases normalizeStatus v <;> simp

/-- Whatever stands for a status: the status that it gives is that of an error. -/
theorem isErrorStatus_of_problemStatus {v : Value} {n : Int} (h : problemStatus v = .ok n) :
    IsErrorStatus n := by
  obtain ⟨w, hw, hn⟩ := problemStatus_eq_ok_iff.mp h
  rw [checkStatus_eq_ok_iff] at hn
  cases v with
  | null => cases hw; cases hn; exact isErrorStatus_500
  | bool b => cases hw; cases hn; exact isErrorStatus_500
  | int m => cases hw; cases hn; exact isErrorStatus_errorStatus m
  | float x =>
      rw [normalizeStatus_float] at hw
      by_cases houtside : x.isOutside = true
      · rw [if_pos houtside] at hw
        cases hw; cases hn; exact isErrorStatus_500
      · rw [if_neg houtside] at hw
        cases hw
        obtain ⟨hwhole, htruncate⟩ := Binary64.isWhole_of_checkWhole hn
        simp only [Binary64.isOutside, Bool.or_eq_true, beq_iff_eq, not_or] at houtside
        exact Binary64.truncate?_mem houtside.1 houtside.2 hwhole htruncate
  | _ => cases hw

/-! ## What the builders fill in -/

/-- A problem as classification leaves it for an error of kind `k`: with an error
status, with everything open that depends on the request, and with failures only for
the two kinds that tell of several. -/
structure Problem.IsSketch (k : Kind) (p : Problem) : Prop where
  status : 400 ≤ p.status ∧ p.status ≤ 599
  title : p.title = none
  typeUri : p.typeUri = none
  instancePath : p.instancePath = none
  requestId : p.requestId = none
  failures : p.failures ≠ [] → k = .alreadyExists ∨ k = .validationFailure

theorem Problem.isSketch_plain (k : Kind) {status : Int} (hstatus : IsErrorStatus status)
    (detail : Option Text) : IsSketch k { status, detail } :=
  ⟨hstatus, rfl, rfl, rfl, rfl, fun h => absurd rfl h⟩

theorem Problem.isSketch_failures {k : Kind} (hkind : k = .alreadyExists ∨ k = .validationFailure)
    {status : Int} (hstatus : IsErrorStatus status) (detail : Option Text)
    (failures : List FailureItem) : IsSketch k { status, detail, failures } :=
  ⟨hstatus, rfl, rfl, rfl, rfl, fun _ => hkind⟩

namespace Error

variable {e : Error} {development : Bool} {status : Int} {p : Problem}

theorem openly_eq_ok {failures : List FailureItem} (h : openly e status failures = .ok p) :
    ∃ detail, p = { status, detail, failures } := by
  obtain ⟨message, -, rfl⟩ := map_eq_ok_iff.mp h
  exact ⟨some message, rfl⟩

theorem guarded_eq_ok {instead : String} (h : guarded e development status instead = .ok p) :
    ∃ detail, p = { status, detail } := by
  obtain ⟨message, -, rfl⟩ := map_eq_ok_iff.mp h
  exact ⟨some message, rfl⟩

theorem classifyUnknown_eq_ok {ambient : Value}
    (h : classifyUnknown e ambient development = .ok p) :
    ∃ status detail, problemStatus ambient = .ok status ∧ p = { status, detail } := by
  obtain ⟨v, hv, h⟩ := bind_eq_ok_iff.mp h
  obtain ⟨message, -, h⟩ := bind_eq_ok_iff.mp h
  obtain ⟨status, hstatus, h⟩ := bind_eq_ok_iff.mp h
  exact ⟨status, some message, problemStatus_eq_ok_iff.mpr ⟨v, hv, hstatus⟩,
    (Except.ok.inj h).symm⟩

/-- What a batch failed with counts like a status so far. -/
theorem exists_normalizeStatus_of_batchStatus {w : Value} (h : e.batchStatus = .ok w) :
    ∃ v, normalizeStatus v = .ok w := by
  unfold batchStatus at h
  split at h
  · exact ⟨_, h⟩
  · exact ⟨_, h⟩
  · cases h

theorem classifyBatch_eq_ok (h : classifyBatch e = .ok p) :
    ∃ status detail, IsErrorStatus status ∧ p = { status, detail } := by
  obtain ⟨w, hw, h⟩ := bind_eq_ok_iff.mp h
  obtain ⟨message, -, h⟩ := bind_eq_ok_iff.mp h
  obtain ⟨status, hstatus, h⟩ := bind_eq_ok_iff.mp h
  obtain ⟨v, hv⟩ := exists_normalizeStatus_of_batchStatus hw
  exact ⟨status, some message,
    isErrorStatus_of_problemStatus (problemStatus_eq_ok_iff.mpr ⟨w, hv, hstatus⟩),
    (Except.ok.inj h).symm⟩

theorem classifyValidation_eq_ok (h : classifyValidation e = .ok p) :
    ∃ detail failures, p = { status := 422, detail, failures } := by
  unfold classifyValidation at h
  cases hattached : e.attachedFailures? with
  | none =>
      rw [hattached] at h
      obtain ⟨failures, -, h⟩ := bind_eq_ok_iff.mp h
      obtain ⟨detail, hp⟩ := openly_eq_ok h
      exact ⟨detail, failures, hp⟩
  | some a =>
      rw [hattached] at h
      obtain ⟨message, -, h⟩ := bind_eq_ok_iff.mp h
      obtain ⟨failures, -, h⟩ := bind_eq_ok_iff.mp h
      exact ⟨some message, failures, (Except.ok.inj h).symm⟩

/-- Whatever the error: its problem is a sketch. -/
theorem isSketch_of_classify {ambient : Value} (h : classify e ambient development = .ok p) :
    p.IsSketch e.kind := by
  unfold classify at h
  cases hkind : e.kind with
  | authenticationFailure | unauthenticatedAccess | unauthorizedAccess | forbiddenAccess
  | genericSecurity | malformedRequest =>
      rw [hkind] at h
      obtain ⟨detail, rfl⟩ := guarded_eq_ok h
      exact Problem.isSketch_plain _ ⟨by decide, by decide⟩ detail
  | conflict | badRequest | keyNotFound | concurrencyConflict | notFound =>
      rw [hkind] at h
      obtain ⟨detail, rfl⟩ := openly_eq_ok h
      exact Problem.isSketch_plain _ ⟨by decide, by decide⟩ detail
  | alreadyExists =>
      rw [hkind] at h
      obtain ⟨conflicts, -, h⟩ := bind_eq_ok_iff.mp h
      obtain ⟨detail, rfl⟩ := openly_eq_ok h
      exact Problem.isSketch_failures (Or.inl rfl) ⟨by decide, by decide⟩ detail _
  | validationFailure =>
      rw [hkind] at h
      obtain ⟨detail, failures, rfl⟩ := classifyValidation_eq_ok h
      exact Problem.isSketch_failures (Or.inr rfl) ⟨by decide, by decide⟩ detail _
  | batchOperationFailure =>
      rw [hkind] at h
      obtain ⟨status, detail, hstatus, rfl⟩ := classifyBatch_eq_ok h
      exact Problem.isSketch_plain _ hstatus detail
  | unknown =>
      rw [hkind] at h
      obtain ⟨status, detail, hstatus, rfl⟩ := classifyUnknown_eq_ok h
      exact Problem.isSketch_plain _ (isErrorStatus_of_problemStatus hstatus) detail

/-! ## What matters for which kind -/

/-- During development only the problems of concealed kinds are others. -/
theorem classify_development (hkind : e.kind.isConcealed = false) (ambient : Value)
    (development other : Bool) : classify e ambient development = classify e ambient other := by
  unfold classify
  cases hk : e.kind <;> rw [hk] at hkind <;> first | rfl | cases hkind

/-- The problems of an error during development and otherwise differ in their details. -/
theorem classify_detail {ambient : Value} {other : Bool} {q : Problem}
    (hp : classify e ambient development = .ok p) (hq : classify e ambient other = .ok q) :
    q = { p with detail := q.detail } := by
  by_cases hkind : e.kind.isConcealed = false
  · rw [classify_development hkind ambient development other, hq] at hp
    obtain rfl := Except.ok.inj hp
    rfl
  · unfold classify at hp hq
    cases hk : e.kind with
    | authenticationFailure | unauthenticatedAccess | unauthorizedAccess | forbiddenAccess
    | genericSecurity | malformedRequest =>
        rw [hk] at hp hq
        obtain ⟨detail, rfl⟩ := guarded_eq_ok hp
        obtain ⟨detail', rfl⟩ := guarded_eq_ok hq
        rfl
    | unknown =>
        rw [hk] at hp hq
        obtain ⟨status, detail, hstatus, rfl⟩ := classifyUnknown_eq_ok hp
        obtain ⟨status', detail', hstatus', rfl⟩ := classifyUnknown_eq_ok hq
        obtain rfl := Except.ok.inj (hstatus.symm.trans hstatus')
        rfl
    | _ => exact absurd (by rw [hk]; rfl) hkind

/-- Of an error of a known kind, the status so far is not looked at. -/
theorem classify_ambient (hkind : e.kind ≠ .unknown) (ambient other : Value)
    (development : Bool) : classify e ambient development = classify e other development := by
  unfold classify
  cases hk : e.kind <;> first | rfl | exact absurd hk hkind

/-- An error of no known kind takes over the status so far, and nothing else of it. -/
theorem classifyUnknown_int (e : Error) (n : Int) (development : Bool) :
    classifyUnknown e (.int n) development =
      (guardedDetail e development "").map fun detail =>
        { status := errorStatus n, detail := some detail } := by
  unfold classifyUnknown
  cases guardedDetail e development "" <;> rfl

theorem classify_unknown (hkind : e.kind = .unknown) (m n : Int) (development : Bool) :
    classify e (.int n) development =
      (classify e (.int m) development).map fun p => { p with status := errorStatus n } := by
  unfold classify
  rw [hkind]
  show classifyUnknown e (.int n) development =
    (classifyUnknown e (.int m) development).map fun p => { p with status := errorStatus n }
  rw [classifyUnknown_int, classifyUnknown_int]
  cases guardedDetail e development "" <;> rfl

/-- A tag on an error comes before everything else that could say of which kind it is. -/
theorem kind_of_attribute {k : Kind} (h : attribute? "kind" e.attributes = some (.kind k)) :
    e.kind = k := by
  unfold kind tag?
  rw [h]

theorem kind_of_service {cls : ServiceClass} {message : Value}
    (hform : e.form = .service cls message) (h : attribute? "kind" e.attributes = none) :
    e.kind = cls.kind := by
  unfold kind tag?
  rw [h, hform]

/-- **What matters for a classification.** Whatever the error, its problem is a sketch;
development matters for the detail alone, and for that only where errors are concealed;
the status so far matters for errors of no known kind alone, and for their status only;
and the kind of an error with a tag is its tag, whatever its class. -/
theorem classify_influences (e : Error) :
    (∀ ambient development p, classify e ambient development = .ok p → p.IsSketch e.kind)
      ∧ (∀ ambient development other p q, classify e ambient development = .ok p →
          classify e ambient other = .ok q → q = { p with detail := q.detail })
      ∧ (e.kind.isConcealed = false → ∀ ambient development other,
          classify e ambient development = classify e ambient other)
      ∧ (e.kind ≠ .unknown → ∀ (m n : Int) development,
          classify e (.int m) development = classify e (.int n) development)
      ∧ (e.kind = .unknown → ∀ (m n : Int) development,
          classify e (.int n) development = (classify e (.int m) development).map fun p =>
            { p with status := if 400 ≤ n ∧ n ≤ 599 then n else 500 })
      ∧ (∀ k, attribute? "kind" e.attributes = some (.kind k) → e.kind = k)
      ∧ ∀ cls message, e.form = .service cls message → attribute? "kind" e.attributes = none →
          e.kind = cls.kind := by
  refine ⟨fun _ _ _ => isSketch_of_classify, fun _ _ _ _ _ => classify_detail,
    classify_development, fun hkind m n => classify_ambient hkind (.int m) (.int n),
    fun hkind m n development => ?_, fun _ => kind_of_attribute,
    fun _ _ => kind_of_service⟩
  rw [classify_unknown hkind m n development, errorStatus_eq]

/-- A file that is locked: the tag says more than the class. -/
def lockedFile : Error :=
  (Error.ofCommon .permissionError [.text "locked"]).derived "LockedError"
    [("kind", .kind .conflict)]

theorem influences_on_lockedFile :
    lockedFile.kind = .conflict
      ∧ Problem.IsSketch lockedFile.kind { status := 409, detail := some "locked" }
      ∧ classify lockedFile (.int 200) true = classify lockedFile (.int 503) false
      ∧ classify crash.error (.int 503) false =
          (classify crash.error (.int 200) false).map (fun p => { p with status := 503 })
      ∧ ({ status := 500, detail := some "" } : Problem) =
          { ({ status := 500, detail := some "db down" } : Problem) with detail := some "" }
      ∧ stranger.error.kind = .authenticationFailure := by
  obtain ⟨hsketch, -, hdevelopment, hambient, -, htag, -⟩ := classify_influences lockedFile
  obtain ⟨-, hdetail, -, -, hunknown, -, -⟩ := classify_influences crash.error
  obtain ⟨-, -, -, -, -, -, hclass⟩ := classify_influences stranger.error
  have hkind : lockedFile.kind = .conflict := htag .conflict rfl
  exact ⟨hkind, hsketch (.int 200) true _ rfl,
    (hdevelopment (by rw [hkind]; rfl) _ true false).trans
      (hambient (by rw [hkind]; decide) 200 503 false),
    hunknown (by decide) 200 503 false,
    hdetail (.int 200) true false _ _ rfl rfl,
    hclass .authenticationFailed _ rfl rfl⟩

end Error

end Triage
