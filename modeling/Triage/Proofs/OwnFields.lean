import Triage.Log.Record
import Triage.Proofs.Fields
import Triage.Proofs.Obstacles
import Triage.Proofs.ReadBack

/-!
# What a log line says

A log line is one object. The record's own fields come first, what each of them is to show
is said by `Record.Shows`, and the extra fields are put in over them. The filter that the
extra fields pass knows the names of a record's bookkeeping, but of the seven names that are
written it knows only the message's. So a field of the record's own stands exactly if it is
the message, or no extra field of its name says something else
(`Record.own_fields_stand_iff`); the extra fields themselves are all written.
-/

namespace Triage.Log.Record

variable {r : Record} {service : Text} {requestId : Option Text}
  {own fields : List (Text × Value)} {name line : Text} {shown : Option Value}

/-! ## The record's own fields -/

/-- What a field of a record's own is to show, if anything. -/
inductive Shows (r : Record) (service : Text) (requestId : Option Text) :
    Text → Option Value → Prop where
  | timestamp {moment : String} : r.moment = .ok moment →
      Shows r service requestId "timestamp" (some (.text moment))
  | level : Shows r service requestId "level" (some r.levelName)
  | service : Shows r service requestId "service" (some (.text service))
  | logger : Shows r service requestId "logger" (some r.logger)
  | message {text : Text} : r.message = .ok text →
      Shows r service requestId "message" (some (.text text))
  | requestId : Shows r service requestId "request_id" (requestId.map .text)
  | noException : r.instead = none → r.error = none →
      Shows r service requestId "exception" none
  /-- The error is split into its type, its message and its traceback. -/
  | exception {e : Error} {text report : Text} : r.instead = none → r.error = some e →
      e.text = .ok text → traceback e = .ok report →
      Shows r service requestId "exception" (some (.object [
        ("type", .text e.className), ("message", .text text), ("traceback", .text report)]))
  | standIn {v : Value} {parts : Option Value} : r.instead = some v → standIn? v = .ok parts →
      Shows r service requestId "exception" parts

theorem ownFields_eq_ok_iff :
    r.ownFields service requestId = .ok own ↔
      ∃ moment text error, r.moment = .ok moment ∧ r.message = .ok text
        ∧ r.shownError? = .ok error
        ∧ own = alwaysShown r service moment text
            ++ (requestId.map fun id => (requestIdFieldName, Value.text id)).toList
            ++ (error.map fun parts => (errorFieldName, parts)).toList := by
  unfold ownFields
  cases r.moment with
  | error t => simp [bind, Except.bind]
  | ok moment =>
      cases r.message with
      | error t => simp [bind, Except.bind]
      | ok text =>
          cases r.shownError? with
          | error t => simp [bind, Except.bind]
          | ok error =>
              cases requestId <;> cases error <;>
                simp [bind, Except.bind, pure, Except.pure, eq_comm]

/-- The error that is shown is the record's, or what an extra field has put in its place. -/
theorem shownError?_eq_ok_iff :
    r.shownError? = .ok shown ↔
      (r.instead = none ∧ r.error = none ∧ shown = none)
        ∨ (∃ e text report, r.instead = none ∧ r.error = some e ∧ e.text = .ok text
          ∧ traceback e = .ok report
          ∧ shown = some (errorParts (.text e.className) text report))
        ∨ ∃ v, r.instead = some v ∧ standIn? v = .ok shown := by
  unfold shownError?
  cases r.instead with
  | some v => simp
  | none =>
      cases r.error with
      | none => simp [eq_comm]
      | some e =>
          simp only [bind_eq_ok_iff, Trouble.ofWords_eq_ok_iff]
          simp [pure, Except.pure, eq_comm]

theorem shows_exception (h : r.shownError? = .ok shown) :
    r.Shows service requestId "exception" shown := by
  rcases shownError?_eq_ok_iff.mp h with
    ⟨hinstead, herror, rfl⟩ | ⟨e, text, report, hinstead, herror, htext, hreport, rfl⟩
      | ⟨v, hinstead, hparts⟩
  · exact .noException hinstead herror
  · exact .exception hinstead herror htext hreport
  · exact .standIn hinstead hparts

theorem lookup?_exception (moment : String) (text : Text) (error : Option Value) :
    Value.lookup? "exception" (alwaysShown r service moment text
      ++ (requestId.map fun id => (requestIdFieldName, Value.text id)).toList
      ++ (error.map fun parts => (errorFieldName, parts)).toList) = error := by
  cases requestId <;> cases error <;> simp [Value.lookup?, alwaysShown, requestIdFieldName,
    errorFieldName]

theorem lookup?_of_shows (hown : r.ownFields service requestId = .ok own)
    (hshows : r.Shows service requestId name shown) : Value.lookup? name own = shown := by
  obtain ⟨moment, text, error, hmoment, htext, herror, rfl⟩ := ownFields_eq_ok_iff.mp hown
  cases hshows with
  | timestamp h =>
      obtain rfl := Except.ok.inj (hmoment.symm.trans h)
      rfl
  | level => rfl
  | service => rfl
  | logger => rfl
  | message h =>
      obtain rfl := Except.ok.inj (htext.symm.trans h)
      rfl
  | requestId =>
      cases requestId <;> cases error <;>
        simp [Value.lookup?, alwaysShown, requestIdFieldName, errorFieldName]
  | noException hinstead hnone =>
      have hshown := shownError?_eq_ok_iff.mpr (Or.inl ⟨hinstead, hnone, rfl⟩)
      obtain rfl := Except.ok.inj (herror.symm.trans hshown)
      exact lookup?_exception moment text _
  | exception hinstead hsome hsaid hreport =>
      have hshown := shownError?_eq_ok_iff.mpr
        (Or.inr (Or.inl ⟨_, _, _, hinstead, hsome, hsaid, hreport, rfl⟩))
      obtain rfl := Except.ok.inj (herror.symm.trans hshown)
      exact lookup?_exception moment text _
  | standIn hinstead hparts =>
      have hshown := shownError?_eq_ok_iff.mpr (Or.inr (Or.inr ⟨_, hinstead, hparts⟩))
      obtain rfl := Except.ok.inj (herror.symm.trans hshown)
      exact lookup?_exception moment text _

/-- A field of the record's own shows what it is to show. -/
theorem shows_of_mem_ownFields {v : Value} (hown : r.ownFields service requestId = .ok own)
    (hmem : (name, v) ∈ own) : r.Shows service requestId name (some v) := by
  obtain ⟨moment, text, error, hmoment, htext, herror, rfl⟩ := ownFields_eq_ok_iff.mp hown
  simp only [alwaysShown, List.mem_append, List.mem_cons, List.not_mem_nil, or_false,
    Option.mem_toList, Option.map_eq_some_iff, Prod.mk.injEq] at hmem
  obtain ((⟨rfl, rfl⟩ | ⟨rfl, rfl⟩ | ⟨rfl, rfl⟩ | ⟨rfl, rfl⟩ | ⟨rfl, rfl⟩) | ⟨id, rfl, rfl, rfl⟩)
    | ⟨parts, rfl, rfl, rfl⟩ := hmem
  · exact .timestamp hmoment
  · exact .level
  · exact .service
  · exact .logger
  · exact .message htext
  · exact .requestId
  · exact shows_exception herror

theorem nodup_ownFields (hown : r.ownFields service requestId = .ok own) :
    (own.map (·.1)).Nodup := by
  obtain ⟨moment, text, error, -, -, -, rfl⟩ := ownFields_eq_ok_iff.mp hown
  cases requestId <;> cases error <;> simp [alwaysShown, requestIdFieldName, errorFieldName]

/-! ## The whole line -/

/-- No two extra fields of a record have one name. -/
def HasDistinctExtras (r : Record) : Prop := (r.extra.map (·.1)).Nodup

theorem hasDistinctExtras_add (h : r.HasDistinctExtras) (name : Text) (v : Value) :
    (r.add name v).HasDistinctExtras := by
  unfold add
  split
  case h_7 => exact Value.nodup_insert h name v
  all_goals exact h

theorem hasDistinctExtras_addAll (h : r.HasDistinctExtras) (fields : List (Text × Value)) :
    (r.addAll fields).HasDistinctExtras := by
  induction fields generalizing r with
  | nil => exact h
  | cons f fields ih => exact ih (hasDistinctExtras_add h f.1 f.2)

theorem hasDistinctExtras_named (logger levelName template : Text) (arguments : List Value)
    (created : Value) (error : Option Error) (fields : List (Text × Value)) :
    ((named logger levelName template arguments created error).addAll fields).HasDistinctExtras :=
  hasDistinctExtras_addAll (r := named ..) List.nodup_nil fields

/-- Records as they are made have none or several extra fields, of distinct names. -/
theorem hasDistinctExtras_made {logger : Text} {level : Int} {template : Text}
    {arguments : List Value} {created : Value} {error : Option Error}
    (hmade : make logger level template arguments created error = .ok r)
    (fields : List (Text × Value)) : (r.addAll fields).HasDistinctExtras := by
  obtain ⟨levelName, -, rfl⟩ := map_eq_ok_iff.mp hmade
  exact hasDistinctExtras_named ..

/-- The extra fields that are written. -/
def written (r : Record) : List (Text × Value) := r.extra.filter fun f => isWritten f.1

theorem lookup?_written_iff (hextra : r.HasDistinctExtras) {v : Value} :
    Value.lookup? name r.written = some v ↔ (name, v) ∈ r.extra ∧ isWritten name = true := by
  have hdistinct : (r.written.map (·.1)).Nodup := hextra.sublist (List.filter_sublist.map _)
  rw [Value.lookup?_eq_some_iff hdistinct]
  exact List.mem_filter

theorem lookup?_payload (hextra : r.HasDistinctExtras)
    (hown : r.ownFields service requestId = .ok own)
    (hfields : r.payload service requestId = .ok fields) (name : Text) :
    Value.lookup? name fields = (Value.lookup? name r.written).or (Value.lookup? name own) := by
  have hdistinct : (r.written.map (·.1)).Nodup := hextra.sublist (List.filter_sublist.map _)
  unfold payload at hfields
  rw [hown] at hfields
  obtain rfl := Except.ok.inj hfields
  exact Value.lookup?_insertAll hdistinct own name

theorem nodup_payload (hfields : r.payload service requestId = .ok fields) :
    (fields.map (·.1)).Nodup := by
  unfold payload at hfields
  cases hown : r.ownFields service requestId with
  | error t => rw [hown] at hfields; cases hfields
  | ok own =>
      rw [hown] at hfields
      obtain rfl := Except.ok.inj hfields
      exact Value.nodup_insertAll (nodup_ownFields hown) _

/-- The filter for extra fields knows one name of the record's own. -/
theorem isWritten_iff_of_shows (hshows : r.Shows service requestId name shown) :
    isWritten name = true ↔ name ≠ "message" := by
  cases hshows <;> decide

theorem stands_iff (hextra : r.HasDistinctExtras)
    (hown : r.ownFields service requestId = .ok own)
    (hfields : r.payload service requestId = .ok fields)
    (hshows : r.Shows service requestId name shown) :
    Value.lookup? name fields = shown ↔
      name = "message" ∨ ∀ v, (name, v) ∈ r.extra → shown = some v := by
  rw [lookup?_payload hextra hown hfields, lookup?_of_shows hown hshows]
  have hwritten : ∀ v, name ≠ "message" → (name, v) ∈ r.extra →
      Value.lookup? name r.written = some v := by
    intro v hname hmem
    exact (lookup?_written_iff hextra).mpr ⟨hmem, (isWritten_iff_of_shows hshows).mpr hname⟩
  cases hover : Value.lookup? name r.written with
  | none =>
      refine iff_of_true rfl (or_iff_not_imp_left.mpr ?_)
      intro hname v hmem
      cases hover.symm.trans (hwritten v hname hmem)
  | some w =>
      obtain ⟨hmem, hw⟩ := (lookup?_written_iff hextra).mp hover
      have hname := (isWritten_iff_of_shows hshows).mp hw
      rw [or_iff_right hname, Option.some_or]
      constructor
      · rintro rfl v hv
        exact hover.symm.trans (hwritten v hname hv)
      · exact fun hall => (hall w hmem).symm

theorem mem_payload_cases {v : Value} (hextra : r.HasDistinctExtras)
    (hown : r.ownFields service requestId = .ok own)
    (hfields : r.payload service requestId = .ok fields) (hmem : (name, v) ∈ fields) :
    r.Shows service requestId name (some v) ∨ ((name, v) ∈ r.extra ∧ isWritten name = true) := by
  have hfound := (Value.lookup?_eq_some_iff (nodup_payload hfields)).mpr hmem
  rw [lookup?_payload hextra hown hfields, Option.or_eq_some_iff] at hfound
  rcases hfound with hover | ⟨-, hunder⟩
  · exact Or.inr ((lookup?_written_iff hextra).mp hover)
  · exact Or.inl (shows_of_mem_ownFields hown (Value.mem_of_lookup? hunder))

theorem exists_payload_iff :
    (∃ fields, r.payload service requestId = .ok fields) ↔
      ∃ own, r.ownFields service requestId = .ok own := by
  unfold payload
  cases r.ownFields service requestId with
  | error t => exact iff_of_false (fun ⟨_, h⟩ => nomatch h) (fun ⟨_, h⟩ => nomatch h)
  | ok own => exact iff_of_true ⟨_, rfl⟩ ⟨own, rfl⟩

theorem line_eq_ok_iff :
    r.line service requestId = .ok line ↔
      ∃ fields, r.payload service requestId = .ok fields
        ∧ Json.CanWrite style deepest (.object fields)
        ∧ line = Text.ofList (Json.write style (.object fields)) := by
  have hpayload : ∀ fields, payloadLine fields = .ok line ↔
      Json.CanWrite style deepest (.object fields)
        ∧ line = Text.ofList (Json.write style (.object fields)) := by
    intro fields
    rw [← Json.obstacle?_eq_none_iff]
    unfold payloadLine
    cases Json.obstacle? style deepest (.object fields) <;> simp [eq_comm]
  unfold Record.line
  rw [bind_eq_ok_iff]
  simp only [hpayload]

/-- A line is written where the moment, the message and the error can be shown, and what is to be
written can be. -/
theorem exists_line_iff :
    (∃ line, r.line service requestId = .ok line) ↔
      (∃ moment, r.moment = .ok moment) ∧ (∃ text, r.message = .ok text)
        ∧ (∃ error, r.shownError? = .ok error)
        ∧ ∀ fields, r.payload service requestId = .ok fields →
            Json.CanWrite style deepest (.object fields) := by
  constructor
  · rintro ⟨line, hline⟩
    obtain ⟨fields, hfields, hwritable, -⟩ := line_eq_ok_iff.mp hline
    obtain ⟨own, hown⟩ := exists_payload_iff.mp ⟨fields, hfields⟩
    obtain ⟨moment, text, error, hmoment, htext, herror, -⟩ := ownFields_eq_ok_iff.mp hown
    refine ⟨⟨moment, hmoment⟩, ⟨text, htext⟩, ⟨error, herror⟩, fun others hothers => ?_⟩
    obtain rfl := Except.ok.inj (hfields.symm.trans hothers)
    exact hwritable
  · rintro ⟨⟨moment, hmoment⟩, ⟨text, htext⟩, ⟨error, herror⟩, hwritable⟩
    obtain ⟨fields, hfields⟩ := exists_payload_iff.mpr
      ⟨_, ownFields_eq_ok_iff.mpr ⟨moment, text, error, hmoment, htext, herror, rfl⟩⟩
    exact ⟨_, line_eq_ok_iff.mpr ⟨fields, hfields, hwritable fields hfields, rfl⟩⟩

theorem separates_style : style.Separates := by
  have hblank : ∀ g ∈ [Glyph.char ' '], Json.isSpace g = true := List.forall_mem_singleton.mpr rfl
  exact ⟨⟨[.char ' '], rfl, hblank⟩, ⟨[.char ' '], rfl, hblank⟩⟩

/-- **When a record's own fields stand.** A line is written exactly if the moment, the message
and the error of the record can be shown and nothing that is to be written stands in the way: no
whole number of too many digits, no thing without a text, nothing nested too deep. The line is one
object without repeated names, and it is read
as that object if that holds nothing but what JSON does, floats apart. A field of the record's own
shows what it is to show exactly if it is the message, or every extra field of its name says the
same. Every extra field is there whose name is not one of a record's bookkeeping and does not
start with an underscore, and there are no further fields. -/
theorem own_fields_stand_iff (r : Record) (hextra : r.HasDistinctExtras) (service : Text)
    (requestId : Option Text) :
    ((∃ line, r.line service requestId = .ok line) ↔
      (∃ moment, r.moment = .ok moment) ∧ (∃ text, r.message = .ok text)
        ∧ (∃ error, r.shownError? = .ok error)
        ∧ ∀ fields, r.payload service requestId = .ok fields →
            Json.CanWrite style deepest (.object fields))
    ∧ ∀ line, r.line service requestId = .ok line →
      ∃ fields, line = Text.ofList (Json.write style (.object fields))
        ∧ (fields.map (·.1)).Nodup
        ∧ (Json.IsPlain (.object fields) → (∀ x, ¬Value.IsPart (.float x) (.object fields)) →
          Json.read Json.strict line = .ok (.object fields))
        ∧ (∀ name shown, r.Shows service requestId name shown →
          (Value.lookup? name fields = shown ↔
            name = "message" ∨ ∀ v, (name, v) ∈ r.extra → shown = some v))
        ∧ (∀ name v, (name, v) ∈ r.extra → isWritten name = true →
          Value.lookup? name fields = some v)
        ∧ ∀ name v, (name, v) ∈ fields →
          r.Shows service requestId name (some v)
            ∨ ((name, v) ∈ r.extra ∧ isWritten name = true) := by
  refine ⟨exists_line_iff, ?_⟩
  intro line hline
  obtain ⟨fields, hfields, -, rfl⟩ := line_eq_ok_iff.mp hline
  obtain ⟨own, hown⟩ := exists_payload_iff.mp ⟨fields, hfields⟩
  refine ⟨fields, rfl, nodup_payload hfields, ?_, ?_, ?_, ?_⟩
  · intro hplain hfloat
    exact (hplain.readsBack Json.isUnlimited_strict separates_style hfloat).read
  · intro name shown hshows
    exact stands_iff hextra hown hfields hshows
  · intro name v hmem hw
    rw [lookup?_payload hextra hown hfields, (lookup?_written_iff hextra).mpr ⟨hmem, hw⟩,
      Option.some_or]
  · intro name v hmem
    exact mem_payload_cases hextra hown hfields hmem

/-! ## A sample -/

/-- A record with an extra field for the disk, and three that go by names of the record's own. -/
def diskFull : Record :=
  (named "faultline.test" "INFO" "disk full" [] (.int 0) none).addAll [
    ("disk", .text "sda"), ("level", .text "DEBUG"), ("service", .text "billing"),
    ("request_id", .text "forged")]

/-- What is written of it. -/
def diskFullFields (moment : String) : List (Text × Value) := [
  ("timestamp", .text moment), ("level", .text "DEBUG"), ("service", .text "billing"),
  ("logger", .text "faultline.test"), ("message", .text "disk full"),
  ("request_id", .text "forged"), ("disk", .text "sda")]

theorem payload_diskFull :
    ∃ moment, diskFull.payload "orders" (some "req-77") = .ok (diskFullFields moment) := ⟨_, rfl⟩

theorem canWrite_diskFull (moment : String) :
    Json.CanWrite style deepest (.object (diskFullFields moment)) := by
  refine .object ?_
  simp only [diskFullFields, List.forall_mem_cons]
  exact ⟨.text _, .text _, .text _, .text _, .text _, .text _, .text _, List.forall_mem_nil _⟩

theorem diskFull_keeps_its_message :
    ∃ fields, diskFull.line "orders" (some "req-77") =
        .ok (Text.ofList (Json.write style (.object fields)))
      ∧ Value.lookup? "message" fields = some (.text "disk full")
      ∧ Value.lookup? "logger" fields = some (.text "faultline.test")
      ∧ Value.lookup? "disk" fields = some (.text "sda") := by
  have hextra : diskFull.HasDistinctExtras := hasDistinctExtras_named ..
  obtain ⟨hwritten, htells⟩ := own_fields_stand_iff diskFull hextra "orders" (some "req-77")
  obtain ⟨moment, hpayload⟩ := payload_diskFull
  have hwritable : ∀ fields, diskFull.payload "orders" (some "req-77") = .ok fields →
      Json.CanWrite style deepest (.object fields) := by
    intro fields hfields
    obtain rfl := Except.ok.inj (hpayload.symm.trans hfields)
    exact canWrite_diskFull moment
  obtain ⟨line, hline⟩ := hwritten.mpr ⟨⟨_, rfl⟩, ⟨_, rfl⟩, ⟨_, rfl⟩, hwritable⟩
  obtain ⟨fields, rfl, -, -, hown, hextras, -⟩ := htells line hline
  refine ⟨fields, hline, (hown _ _ (.message rfl)).mpr (Or.inl rfl), ?_, ?_⟩
  · exact (hown _ _ .logger).mpr (Or.inr (by simp [diskFull, addAll, add, named, Value.insert]))
  · exact hextras _ _ (by simp [diskFull, addAll, add, named, Value.insert]) (by decide)

/-- The level, the service and the id that are written are those of the extra fields. -/
theorem diskFull_is_forged :
    ∃ fields, diskFull.line "orders" (some "req-77") =
        .ok (Text.ofList (Json.write style (.object fields)))
      ∧ diskFull.levelName = .text "INFO"
      ∧ Value.lookup? "level" fields = some (.text "DEBUG")
      ∧ Value.lookup? "service" fields = some (.text "billing")
      ∧ Value.lookup? "request_id" fields = some (.text "forged") := by
  obtain ⟨moment, hpayload⟩ := payload_diskFull
  exact ⟨_, line_eq_ok_iff.mpr ⟨_, hpayload, canWrite_diskFull moment, rfl⟩, rfl, rfl, rfl, rfl⟩

end Triage.Log.Record
