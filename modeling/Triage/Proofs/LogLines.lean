import Triage.Proofs.Faithful
import Triage.Proofs.NumberTexts
import Triage.Proofs.OwnFields

/-!
# One line for each record

A log line is made of printable ASCII alone, whatever the record holds, so no record can split
one. It is read as one object, and this is the payload that was written: tuples as lists, things
as their texts, floats as themselves. Texts are read as they were, with one exception. The halves
of a surrogate pair are escaped one by one, and where two that belong together stand side by
side, a reader takes their escapes for the character of the pair. So the line is read as the
payload with such halves joined, and as the very payload exactly if no halves meet in it
(`Record.line_reads_as_its_payload`, `Record.halves_are_read_as_one`).
-/

namespace Triage

open Number Text

namespace Value

mutual

/-- What a value says where it is written: a tuple its items, a thing its text. -/
def said : Value → Value
  | .list items => .list (saidItems items)
  | .tuple items => .list (saidItems items)
  | .object fields => .object (saidFields fields)
  | .bytes s => .text (quotedBytes s)
  | .thing t => .text (t.text.toOption.getD "")
  | v => v

/-- `said` for items. -/
def saidItems : List Value → List Value
  | [] => []
  | v :: rest => said v :: saidItems rest

/-- `said` for fields. -/
def saidFields : List (Text × Value) → List (Text × Value)
  | [] => []
  | (k, v) :: rest => (k, said v) :: saidFields rest

end

mutual

/-- A value with the halves that meet joined, in names too; of fields whose names have become
one, the last stands in the place of the first. -/
def rejoined : Value → Value
  | .text s => .text (Json.rejoined s)
  | .list items => .list (rejoinedItems items)
  | .object fields => .object (insertAll [] (rejoinedFields fields))
  | v => v

/-- `rejoined` for items. -/
def rejoinedItems : List Value → List Value
  | [] => []
  | v :: rest => rejoined v :: rejoinedItems rest

/-- `rejoined` for fields. -/
def rejoinedFields : List (Text × Value) → List (Text × Value)
  | [] => []
  | (k, v) :: rest => (Json.rejoined k, rejoined v) :: rejoinedFields rest

end

/-- What the text of a value is read as. -/
def told (v : Value) : Value := v.said.rejoined

theorem saidItems_eq_map (items : List Value) : saidItems items = items.map said := by
  induction items with
  | nil => rfl
  | cons v rest ih => rw [saidItems, ih, List.map_cons]

theorem saidFields_eq_map (fields : List (Text × Value)) :
    saidFields fields = fields.map fun f => (f.1, f.2.said) := by
  induction fields with
  | nil => rfl
  | cons f rest ih => rw [saidFields, ih, List.map_cons]

/-! ## What is told of each kind of value -/

theorem told_list (items : List Value) : told (.list items) = .list (items.map told) := by
  have hitems : rejoinedItems (saidItems items) = items.map told := by
    induction items with
    | nil => rfl
    | cons v rest ih =>
        rw [saidItems, rejoinedItems, List.map_cons, ih]
        rfl
  rw [told, said, rejoined, hitems]

theorem told_tuple (items : List Value) : told (.tuple items) = .list (items.map told) :=
  told_list items

theorem told_object (fields : List (Text × Value)) :
    told (.object fields) = .object (insertAll [] (fields.map (Json.toldField told))) := by
  have hfields : rejoinedFields (saidFields fields) = fields.map (Json.toldField told) := by
    induction fields with
    | nil => rfl
    | cons f rest ih =>
        rw [saidFields, rejoinedFields, List.map_cons, ih]
        rfl
  rw [told, said, rejoined, hfields]

/-- Where no halves meet in the names, each field is told under its own. -/
theorem told_object_of_isUnsplit {fields : List (Text × Value)}
    (hdistinct : (fields.map (·.1)).Nodup) (hnames : ∀ f ∈ fields, Json.IsUnsplit f.1.toList) :
    told (.object fields) = .object (fields.map fun f => (f.1, f.2.told)) := by
  have hfields : fields.map (Json.toldField told) = fields.map fun f => (f.1, f.2.told) :=
    List.map_congr_left fun f hf =>
      Prod.ext (Json.rejoined_eq_self_iff.mpr (hnames f hf)) rfl
  have hsame : (fields.map fun f => (f.1, f.2.told)).map (·.1) = fields.map (·.1) := by
    rw [List.map_map]
    rfl
  rw [told_object, hfields, insertAll_nil (hsame ▸ hdistinct)]

theorem told_list_eq_said_iff {items : List Value} :
    told (.list items) = said (.list items) ↔ ∀ v ∈ items, v.told = v.said := by
  rw [told_list, said, saidItems_eq_map, Value.list.injEq, List.map_inj_left]

/-- An object is told as it is said where this is so of its names and of its fields: names that
become one would leave fewer fields. -/
theorem told_object_eq_said_iff {fields : List (Text × Value)}
    (hdistinct : (fields.map (·.1)).Nodup) :
    told (.object fields) = said (.object fields) ↔
      ∀ f ∈ fields, Json.rejoined f.1 = f.1 ∧ f.2.told = f.2.said := by
  have hlength : (fields.map (Json.toldField told)).length =
      (fields.map fun f => (f.1, f.2.said)).length := by
    rw [List.length_map, List.length_map]
  rw [told_object, said, saidFields_eq_map, Value.object.injEq, insertAll_nil_eq_iff hlength,
    List.map_inj_left]
  simp only [Json.toldField, Prod.mk.injEq]
  refine and_iff_right_of_imp fun hsame => ?_
  have hnames : (fields.map (Json.toldField told)).map (·.1) = fields.map (·.1) := by
    rw [List.map_map]
    exact List.map_congr_left fun f hf => (hsame f hf).1
  exact hnames ▸ hdistinct

end Value

/-! ## What may be logged -/

namespace Log

/-- What a record may hold: what JSON holds, tuples, and things such as errors. -/
inductive IsLoggable : Value → Prop
  | null : IsLoggable .null
  | bool (b : Bool) : IsLoggable (.bool b)
  | int (n : Int) : IsLoggable (.int n)
  | float {x : Binary64} : x.IsCanonical → IsLoggable (.float x)
  | text (s : Text) : IsLoggable (.text s)
  | list {items : List Value} : (∀ v ∈ items, IsLoggable v) → IsLoggable (.list items)
  | tuple {items : List Value} : (∀ v ∈ items, IsLoggable v) → IsLoggable (.tuple items)
  | object {fields : List (Text × Value)} : (fields.map (·.1)).Nodup →
      (∀ f ∈ fields, IsLoggable f.2) → IsLoggable (.object fields)
  | thing (t : Thing) : IsLoggable (.thing t)

namespace IsLoggable

variable {v : Value}

/-- **What may be logged is read back from its text.** -/
theorem readsAs (hv : IsLoggable v) : Json.ReadsAs Json.wide Record.style v v.told := by
  have hd : Json.wide.IsUnlimited := ⟨rfl, rfl⟩
  have hholds : ∀ s, Record.style.Holds s := fun _ => Or.inl rfl
  induction hv with
  | null => exact .null
  | bool b => exact .bool b
  | int n => exact .int hd n
  | float hcanonical => exact .float hcanonical fun _ => rfl
  | text s => exact .string (by rw [Json.write]) (hholds s)
  | list hitems ih =>
      rw [Value.told_list]
      exact .list hd Record.separates_style (by rw [Json.write]) ih
  | tuple hitems ih =>
      rw [Value.told_tuple]
      exact .list hd Record.separates_style (by rw [Json.write]) ih
  | object hdistinct hfields ih =>
      rw [Value.told_object]
      exact .object hd Record.separates_style (fun f _ => hholds f.1) ih
  | thing t => exact .string (by rw [Json.write]) (hholds _)

/-- What is read is what was said exactly if no halves meet in a text or a name. -/
theorem told_eq_said_iff (hv : IsLoggable v) :
    v.told = v.said ↔ ∀ s ∈ Json.texts v, Json.IsUnsplit s.toList := by
  have hnone : ∀ {w : Value}, w.told = w.said → Json.texts w = [] →
      (w.told = w.said ↔ ∀ s ∈ Json.texts w, Json.IsUnsplit s.toList) := fun hsame htexts =>
    iff_of_true hsame (by rw [htexts]; exact List.forall_mem_nil _)
  have hstring : ∀ s : Text, (Value.text (Json.rejoined s) = .text s ↔
      ∀ t ∈ [s], Json.IsUnsplit t.toList) := fun s => by
    rw [List.forall_mem_singleton, Value.text.injEq, Json.rejoined_eq_self_iff]
  have hitems : ∀ {items : List Value},
      (∀ w ∈ items, w.told = w.said ↔ ∀ s ∈ Json.texts w, Json.IsUnsplit s.toList) →
      ((∀ w ∈ items, w.told = w.said) ↔
        ∀ s ∈ Json.textsOfItems items, Json.IsUnsplit s.toList) := by
    intro items ih
    simp only [Json.mem_textsOfItems]
    constructor
    · rintro h s ⟨w, hw, hs⟩
      exact (ih w hw).mp (h w hw) s hs
    · exact fun h w hw => (ih w hw).mpr fun s hs => h s ⟨w, hw, hs⟩
  induction hv with
  | null => exact hnone rfl rfl
  | bool b => exact hnone rfl rfl
  | int n => exact hnone rfl rfl
  | float hcanonical => exact hnone rfl rfl
  | text s => exact hstring s
  | thing t => exact hstring _
  | list _ ih => exact Value.told_list_eq_said_iff.trans (hitems ih)
  | tuple _ ih => exact Value.told_list_eq_said_iff.trans (hitems ih)
  | object hdistinct _ ih =>
      rw [Value.told_object_eq_said_iff hdistinct, Json.texts]
      simp only [Json.mem_textsOfFields]
      constructor
      · rintro h s ⟨f, hf, rfl | hs⟩
        · exact Json.rejoined_eq_self_iff.mp (h f hf).1
        · exact (ih f hf).mp (h f hf).2 s hs
      · exact fun h f hf => ⟨Json.rejoined_eq_self_iff.mpr (h f.1 ⟨f, hf, Or.inl rfl⟩),
          (ih f hf).mpr fun s hs => h s ⟨f, hf, Or.inr hs⟩⟩

end IsLoggable

namespace Record

variable {r : Record} {service : Text} {requestId : Option Text}
  {fields : List (Text × Value)} {parts : Value}

/-- A record holds what may be logged. -/
structure HoldsLoggable (r : Record) : Prop where
  logger : IsLoggable r.logger
  level : IsLoggable r.levelName
  extra : ∀ f ∈ r.extra, IsLoggable f.2

theorem holdsLoggable_add (hr : r.HoldsLoggable) {v : Value} (hv : IsLoggable v) (name : Text) :
    (r.add name v).HoldsLoggable := by
  obtain ⟨hlogger, hlevel, hextra⟩ := hr
  unfold add
  split
  case h_1 => exact ⟨hv, hlevel, hextra⟩
  case h_2 => exact ⟨hlogger, hv, hextra⟩
  case h_7 =>
    refine ⟨hlogger, hlevel, fun f hf => ?_⟩
    rcases Value.mem_insert_cases hf with hf | rfl
    · exact hextra f hf
    · exact hv
  all_goals exact ⟨hlogger, hlevel, hextra⟩

theorem holdsLoggable_addAll (hr : r.HoldsLoggable) {extras : List (Text × Value)}
    (hextras : ∀ f ∈ extras, IsLoggable f.2) : (r.addAll extras).HoldsLoggable := by
  induction extras generalizing r with
  | nil => exact hr
  | cons f extras ih =>
      obtain ⟨hf, hextras⟩ := List.forall_mem_cons.mp hextras
      exact ih (holdsLoggable_add hr hf f.1) hextras

theorem holdsLoggable_named (logger levelName template : Text) (arguments : List Value)
    (created : Value) (error : Option Error) {extras : List (Text × Value)}
    (hextras : ∀ f ∈ extras, IsLoggable f.2) :
    ((named logger levelName template arguments created error).addAll extras).HoldsLoggable :=
  holdsLoggable_addAll ⟨.text logger, .text levelName, List.forall_mem_nil _⟩ hextras

/-- A record as it is made holds what may be logged if its extra fields do. -/
theorem holdsLoggable_made {logger : Text} {level : Int} {template : Text}
    {arguments : List Value} {created : Value} {error : Option Error}
    (hmade : make logger level template arguments created error = .ok r)
    {extras : List (Text × Value)} (hextras : ∀ f ∈ extras, IsLoggable f.2) :
    (r.addAll extras).HoldsLoggable := by
  obtain ⟨levelName, -, rfl⟩ := map_eq_ok_iff.mp hmade
  exact holdsLoggable_named _ _ _ _ _ _ hextras

/-! ## What is written -/

theorem isLoggable_errorParts {type : Value} (htype : IsLoggable type) (text report : Text) :
    IsLoggable (errorParts type text report) := by
  have hnames : (["type", "message", "traceback"] : List Text).Nodup := by decide
  refine .object hnames ?_
  simp only [List.forall_mem_cons]
  exact ⟨htype, .text text, .text report, List.forall_mem_nil _⟩

theorem isLoggable_of_standInParts {what : String} {items : List Value}
    (h : standInParts? what items = .ok (some parts)) : IsLoggable parts := by
  unfold standInParts? at h
  split at h
  case h_5 =>
    -- Of three parts, the error is shown if it is a thing and the others are null.
    split at h
    · cases h
    · split at h
      · cases h
      · obtain ⟨text, -, h⟩ := bind_eq_ok_iff.mp h
        split at h
        · obtain rfl := Option.some.inj (Except.ok.inj h)
          exact isLoggable_errorParts .null _ _
        · cases h
        · cases h
  case h_6 => split at h <;> cases h
  all_goals cases h

theorem isLoggable_of_standIn {v : Value} (h : standIn? v = .ok (some parts)) :
    IsLoggable parts := by
  unfold standIn? at h
  split at h
  · split at h <;> first | exact isLoggable_of_standInParts h | cases h
  · cases h

/-- What is shown of a record that holds what may be logged may be logged. -/
theorem isLoggable_of_shows (hr : r.HoldsLoggable) {name : Text} {shown : Option Value}
    (h : r.Shows service requestId name shown) {v : Value} (hv : shown = some v) :
    IsLoggable v := by
  cases h with
  | timestamp _ => exact Option.some.inj hv ▸ .text _
  | level => exact Option.some.inj hv ▸ hr.level
  | service => exact Option.some.inj hv ▸ .text service
  | logger => exact Option.some.inj hv ▸ hr.logger
  | message _ => exact Option.some.inj hv ▸ .text _
  | requestId =>
      obtain ⟨id, -, rfl⟩ := Option.map_eq_some_iff.mp hv
      exact .text id
  | noException _ _ => cases hv
  | exception _ _ _ => exact Option.some.inj hv ▸ isLoggable_errorParts (.text _) _ _
  | standIn _ hparts => exact isLoggable_of_standIn (hv ▸ hparts)

theorem isLoggable_payload (hr : r.HoldsLoggable)
    (hfields : r.payload service requestId = .ok fields) : IsLoggable (.object fields) := by
  refine .object (nodup_payload hfields) fun f hf => ?_
  obtain ⟨own, hown⟩ := exists_payload_iff.mp ⟨fields, hfields⟩
  have hinserted : fields = Value.insertAll own r.written := by
    unfold payload at hfields
    rw [hown] at hfields
    exact (Except.ok.inj hfields).symm
  rw [hinserted] at hf
  rcases Value.mem_insertAll_cases hf with hf | hf
  · exact isLoggable_of_shows hr (shows_of_mem_ownFields hown hf) rfl
  · exact hr.extra f (List.mem_filter.mp hf).1

theorem fits_write (v : Value) : ∀ g ∈ Json.write style v, Json.Fits true g :=
  (Json.composes_fits (by decide) (by decide)).write v

/-- **No record splits its line.** A line is written exactly if the moment, the message and the
error of the record can be shown and nothing that is to be written stands in the way: no whole
number of too many digits, no thing without a text, nothing nested too deep. It is printable
ASCII, and it is read as its payload with the halves that meet joined; it is read as the payload
itself, key for key and text for text, exactly if no halves meet in one of its texts and names. -/
theorem line_reads_as_its_payload (r : Record) (hr : r.HoldsLoggable) (service : Text)
    (requestId : Option Text) :
    ((∃ line, r.line service requestId = .ok line) ↔
      (∃ moment, r.moment = .ok moment) ∧ (∃ text, r.message = .ok text)
        ∧ (∃ error, r.shownError? = .ok error)
        ∧ ∀ fields, r.payload service requestId = .ok fields →
            Json.CanWrite style deepest (.object fields))
    ∧ ∀ line, r.line service requestId = .ok line →
      ∃ fields, r.payload service requestId = .ok fields
        ∧ (∀ g ∈ line.toList, 0x20 ≤ g.toNat ∧ g.toNat ≤ 0x7e)
        ∧ Json.read Json.wide line = .ok (Value.object fields).told
        ∧ (Json.read Json.wide line =
              .ok (.object (fields.map fun f => (f.1, f.2.said))) ↔
            ∀ s ∈ Json.texts (.object fields), Json.IsUnsplit s.toList) := by
  refine ⟨exists_line_iff, fun line hline => ?_⟩
  obtain ⟨fields, hfields, -, rfl⟩ := line_eq_ok_iff.mp hline
  have hloggable := isLoggable_payload hr hfields
  have hread := hloggable.readsAs.read
  refine ⟨fields, hfields, ?_, hread, ?_⟩
  · intro g hg
    obtain ⟨hlow, hhigh⟩ := fits_write _ g hg
    exact ⟨hlow, Nat.le_of_lt_succ (hhigh rfl)⟩
  · rw [hread, ← hloggable.told_eq_said_iff, Except.ok.injEq, Value.said, Value.saidFields_eq_map]

/-- A record that is full of breaks, with half of a pair, a number, a tuple and an error. -/
def awkward : Record :=
  (named "faultline.test" "ERROR" "one\nline\u2028of 𝄞\x7f" [] (.int 0) none).addAll [
    ("path", .text "/a\r\n\x00\"\\"), ("half", .text (.singleton (.ofNat 0xd83d))),
    ("share", .float (.ofDecimal false ['0'] ['1'] 0)), ("at", .tuple [.int (-3), .null]),
    ("cause", .thing ⟨"ValueError", .ok "lost\n", .ok "ValueError('lost\\n')",
      "ValueError: lost\n"⟩)]

theorem holdsLoggable_awkward : awkward.HoldsLoggable := by
  refine holdsLoggable_named _ _ _ _ _ _ ?_
  simp only [List.forall_mem_cons]
  refine ⟨.text _, .text _, .float (Binary64.isCanonical_ofDecimal ..), .tuple ?_, .thing _,
    List.forall_mem_nil _⟩
  simp only [List.forall_mem_cons]
  exact ⟨.int _, .null, List.forall_mem_nil _⟩

theorem awkward_reads_as_its_payload :
    awkward.HoldsLoggable
      ∧ ∃ line fields, awkward.line "orders" (some "req-77") = .ok line
        ∧ awkward.payload "orders" (some "req-77") = .ok fields
        ∧ (∀ g ∈ line.toList, 0x20 ≤ g.toNat ∧ g.toNat ≤ 0x7e)
        ∧ Json.read Json.wide line = .ok (.object (fields.map fun f => (f.1, f.2.said))) := by
  obtain ⟨hwritten, hreads⟩ :=
    line_reads_as_its_payload awkward holdsLoggable_awkward "orders" (some "req-77")
  have hwritable : ∀ fields, awkward.payload "orders" (some "req-77") = .ok fields →
      Json.CanWrite style deepest (.object fields) := by
    have hclear : ((awkward.payload "orders" (some "req-77")).toOption.all fun fields =>
        decide (Json.obstacle? style deepest (.object fields) = none)) = true := by
      decide +kernel
    intro fields hfields
    rw [hfields] at hclear
    exact (Json.obstacle?_eq_none_iff _).mp (of_decide_eq_true hclear)
  obtain ⟨line, hline⟩ := hwritten.mpr ⟨⟨_, rfl⟩, ⟨_, rfl⟩, ⟨_, rfl⟩, hwritable⟩
  obtain ⟨fields, hfields, hprintable, -, hexact⟩ := hreads line hline
  have hunsplit : ((awkward.payload "orders" (some "req-77")).toOption.all fun fields =>
      (Json.texts (.object fields)).all fun s => decide (Json.IsUnsplit s.toList)) = true := by
    decide +kernel
  rw [hfields] at hunsplit
  refine ⟨holdsLoggable_awkward, line, fields, hline, hfields, hprintable, hexact.mpr ?_⟩
  exact fun s hs => of_decide_eq_true (List.all_eq_true.mp hunsplit s hs)

/-! ## Halves that meet -/

/-- The two halves of one pair. -/
def splitFace : Text := .ofList [.ofNat 0xd83d, .ofNat 0xde00]

/-- A record whose message is filled in with the halves of one pair. -/
def halves : Record :=
  named "faultline.test" "INFO" "%s%s"
    [.text (.singleton (.ofNat 0xd83d)), .text (.singleton (.ofNat 0xde00))]
    (.int 0) none

theorem holdsLoggable_halves : halves.HoldsLoggable :=
  holdsLoggable_named _ _ _ _ _ _ (List.forall_mem_nil _)

/-- What is written of it. -/
def halvesFields (moment : String) : List (Text × Value) := [
  ("timestamp", .text moment), ("level", .text "INFO"), ("service", .text "faultline"),
  ("logger", .text "faultline.test"), ("message", .text splitFace)]

theorem canWrite_halves (moment : String) :
    Json.CanWrite style deepest (.object (halvesFields moment)) := by
  refine .object ?_
  simp only [halvesFields, List.forall_mem_cons]
  exact ⟨.text _, .text _, .text _, .text _, .text _, List.forall_mem_nil _⟩

theorem halves_are_read_as_one :
    ∃ line fields read, halves.line "faultline" none = .ok line
      ∧ halves.payload "faultline" none = .ok fields
      ∧ Value.lookup? "message" fields = some (.text splitFace)
      ∧ Json.read Json.wide line = .ok (.object read)
      ∧ Value.lookup? "message" read = some (.text "😀")
      ∧ read ≠ fields.map fun f => (f.1, f.2.said) := by
  obtain ⟨moment, hmoment⟩ : ∃ moment, halves.moment = .ok moment := ⟨_, rfl⟩
  have hown : halves.ownFields "faultline" none = .ok (halvesFields moment) :=
    ownFields_eq_ok_iff.mpr ⟨moment, splitFace, none, hmoment, rfl, rfl, rfl⟩
  have hfields : halves.payload "faultline" none = .ok (halvesFields moment) := by
    unfold payload
    rw [hown]
    rfl
  have hnames : ∀ f ∈ halvesFields moment, Json.IsUnsplit f.1.toList := by
    simp only [halvesFields, List.forall_mem_cons]
    decide +kernel
  have hread := (isLoggable_payload holdsLoggable_halves hfields).readsAs.read
  rw [Value.told_object_of_isUnsplit (nodup_payload hfields) hnames] at hread
  have hmessage : Value.told (.text splitFace) = .text "😀" :=
    congrArg Value.text (by decide +kernel : Json.rejoined splitFace = "😀")
  refine ⟨_, _, _, line_eq_ok_iff.mpr ⟨_, hfields, canWrite_halves moment, rfl⟩, hfields, rfl,
    hread, congrArg some hmessage, fun heq => ?_⟩
  have hsame : some (Value.told (.text splitFace)) = some (.text splitFace) :=
    congrArg (Value.lookup? "message") heq
  rw [hmessage] at hsame
  exact absurd (Value.text.inj (Option.some.inj hsame)) (by decide)

end Record

end Log

end Triage
