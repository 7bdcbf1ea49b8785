import Mathlib.Data.List.DropRight
import Mathlib.Data.List.Induction
import Triage.Exchange.Edit
import Triage.Proofs.Latin

/-!
# What a draft has come to

A response is drafted by edits, in any order: a status, headers, a content that may fail to be
written, and a fresh start. `edits_eq` says what a new draft has come to after any of them. Its
status is the last one set, fresh starts or not; its content is the last one that
could be written since the last fresh start; and its headers are all those appended since
then. Rendering is no edit: a draft can be rendered at any time and any number of times
(`draft_renders_what_was_written`).
-/

namespace Triage

open Http Text

/-! ## What an edit has to say -/

namespace Edit

/-- The status that the edit sets. -/
def status? : Edit → Option Int
  | .setStatus status => some status
  | _ => none

/-- The header that the edit appends. -/
def header? : Edit → Option (String × Text)
  | .appendHeader name value => some (name, value)
  | _ => none

/-- The content that the edit writes, if it can be written. -/
def content? : Edit → Option Content
  | .write format value mediaType =>
    match format.write value with
    | .ok body => some ⟨body, mediaType⟩
    | .error _ => none
  | _ => none

def isClear : Edit → Bool
  | .clear => true
  | _ => false

/-- The texts of the edit that go into headers are Latin-1. -/
def IsLatin : Edit → Prop
  | .appendHeader name value => IsLatinHeader (name, value)
  | .write _ _ mediaType => IsLatinText mediaType
  | _ => True

instance : DecidablePred IsLatin := fun e => by
  cases e <;> unfold IsLatin <;> infer_instance

variable {e : Edit} {es : List Edit}

theorem exists_write_of_content? {c : Content} (h : e.content? = some c) :
    ∃ format value, e = .write format value c.mediaType ∧ format.write value = .ok c.body := by
  cases e with
  | write format value mediaType =>
      rw [content?] at h
      split at h
      · rename_i body hwrite
        obtain rfl := Option.some.inj h
        exact ⟨format, value, rfl, hwrite⟩
      · cases h
  | _ => cases h

theorem isLatinHeader_of_header? {header : String × Text} (he : e.IsLatin)
    (h : e.header? = some header) : IsLatinHeader header := by
  cases e with
  | appendHeader name value =>
      obtain rfl := Option.some.inj h
      exact he
  | _ => cases h

/-! ## What edits come to -/

/-- The last status that is set. -/
def lastStatus (start : Int) (es : List Edit) : Int :=
  (es.filterMap status?).getLast?.getD start

/-- The edits after the last fresh start. -/
def sinceClear (es : List Edit) : List Edit := es.rtakeWhile (!·.isClear)

/-- The headers that are appended after the last fresh start. -/
def keptHeaders (es : List Edit) : List (String × Text) := (sinceClear es).filterMap header?

/-- The last content that can be written after the last fresh start. -/
def keptContent (es : List Edit) : Option Content := ((sinceClear es).filterMap content?).getLast?

theorem lastStatus_concat (start : Int) (es : List Edit) (e : Edit) :
    lastStatus start (es ++ [e]) = e.status?.getD (lastStatus start es) := by
  unfold lastStatus
  rw [List.filterMap_append]
  cases h : e.status? <;> simp [h]

theorem sinceClear_concat (es : List Edit) (e : Edit) :
    sinceClear (es ++ [e]) = if e.isClear then [] else sinceClear es ++ [e] := by
  unfold sinceClear
  rw [List.rtakeWhile_concat]
  cases e.isClear <;> rfl

theorem keptHeaders_concat (es : List Edit) (e : Edit) :
    keptHeaders (es ++ [e]) = if e.isClear then [] else keptHeaders es ++ e.header?.toList := by
  unfold keptHeaders
  rw [sinceClear_concat]
  split
  · rfl
  · rw [List.filterMap_append]
    cases h : e.header? <;> simp [h]

theorem keptContent_concat (es : List Edit) (e : Edit) :
    keptContent (es ++ [e]) = if e.isClear then none else e.content?.or (keptContent es) := by
  unfold keptContent
  rw [sinceClear_concat]
  split
  · rfl
  · rw [List.filterMap_append]
    cases h : e.content? <;> simp [h]

theorem mem_of_mem_sinceClear (h : e ∈ sinceClear es) : e ∈ es :=
  (List.rtakeWhile_suffix (fun e : Edit => !e.isClear) es).subset h

theorem isLatinHeader_of_mem_keptHeaders {header : String × Text} (hes : ∀ e ∈ es, e.IsLatin)
    (h : header ∈ keptHeaders es) : IsLatinHeader header := by
  obtain ⟨e, hmem, hheader⟩ := List.mem_filterMap.mp h
  exact isLatinHeader_of_header? (hes e (mem_of_mem_sinceClear hmem)) hheader

theorem exists_write_of_keptContent {c : Content} (h : keptContent es = some c) :
    ∃ format value, .write format value c.mediaType ∈ es ∧ format.write value = .ok c.body := by
  obtain ⟨e, hmem, hcontent⟩ := List.mem_filterMap.mp (List.mem_of_getLast? h)
  obtain ⟨format, value, rfl, hwrite⟩ := exists_write_of_content? hcontent
  exact ⟨format, value, mem_of_mem_sinceClear hmem, hwrite⟩

end Edit

open Edit

/-! ## Drafts -/

namespace Draft

/-- What a new draft has come to after some edits. -/
def drafted (start : Int) (es : List Edit) : Draft where
  status := lastStatus start es
  headers := keptHeaders es
  content := keptContent es

theorem attempt_of_error {d : Draft} {e : Edit} {t : Trouble} (h : d.edit e = .error t) :
    d.attempt e = d := by
  unfold attempt
  rw [h]

/-- One edit adds what it has to say, or starts afresh. -/
theorem drafted_concat (start : Int) (es : List Edit) (e : Edit) :
    drafted start (es ++ [e]) = (drafted start es).attempt e := by
  unfold drafted
  rw [lastStatus_concat, keptHeaders_concat, keptContent_concat]
  cases e with
  | setStatus status => simp [attempt, edit, setStatus, status?, header?, content?, isClear]
  | appendHeader name value =>
      simp [attempt, edit, appendHeader, status?, header?, content?, isClear]
  | write format value mediaType =>
      cases hwrite : format.write value with
      | error t => simp [attempt, edit, write, status?, header?, content?, isClear, hwrite]
      | ok body => simp [attempt, edit, write, status?, header?, content?, isClear, hwrite]
  | clear => simp [attempt, edit, clear, status?, isClear]

theorem edits_eq (start : Int) (es : List Edit) :
    ({ status := start } : Draft).edits es = drafted start es := by
  induction es using List.reverseRecOn with
  | nil => rfl
  | append_singleton es e ih => rw [edits_append, ih, drafted_concat, edits_cons, edits_nil]

theorem isSendable_drafted (start : Int) {es : List Edit} (hes : ∀ e ∈ es, e.IsLatin) :
    (drafted start es).IsSendable := by
  refine ⟨fun header => isLatinHeader_of_mem_keptHeaders hes, fun c hc => ?_⟩
  obtain ⟨format, value, hmem, -⟩ := exists_write_of_keptContent hc
  exact hes _ hmem

/-- The response that edits of a new draft come to: their status, what describes their body,
and then their headers. -/
def responseAfter (start : Int) (es : List Edit) : Response where
  status := lastStatus start es
  headers := Response.lengthHeader (lastStatus start es) (((keptContent es).map (·.body)).getD "")
    ++ Response.typeHeader ((keptContent es).map (·.mediaType))
    ++ (keptHeaders es).map keptHeader
  body := ((keptContent es).map (·.body)).getD ""

theorem render_edits (start : Int) {es : List Edit} (hes : ∀ e ∈ es, e.IsLatin) :
    (({ status := start } : Draft).edits es).render = .ok (responseAfter start es) := by
  rw [edits_eq, render_of_isSendable (isSendable_drafted start hes)]
  rfl

/-! ## Rendering in between -/

/-- What is done with a draft. -/
inductive Turn where
  | edit (e : Edit)
  | render
  deriving Repr

/-- The edits among some turns. -/
def Turn.edits (ts : List Turn) : List Edit :=
  ts.filterMap fun
    | .edit e => some e
    | .render => none

/-- What comes of a draft over some turns: a response for each time it is rendered. -/
def renderings (d : Draft) : List Turn → List (Except Trouble Response)
  | [] => []
  | .edit e :: ts => (d.attempt e).renderings ts
  | .render :: ts => d.render :: d.renderings ts

theorem renderings_append (d : Draft) (ts us : List Turn) :
    d.renderings (ts ++ us) = d.renderings ts ++ (d.edits (Turn.edits ts)).renderings us := by
  induction ts generalizing d with
  | nil => rfl
  | cons t ts ih =>
      cases t with
      | edit e => exact ih (d.attempt e)
      | render => exact congrArg (d.render :: ·) (ih d)

/-- **A draft renders what was written since the last fresh start.** Whenever a draft
is rendered, what comes of it is the last status, the last content that could be written
since the last fresh start, and the headers since then, however often it has been rendered
before and will be again. An edit that fails is as if it had not been made, and a fresh start
leaves the status alone. -/
theorem draft_renders_what_was_written (start : Int) (ts : List Turn)
    (hlatin : ∀ e ∈ Turn.edits ts, e.IsLatin) :
    (∀ before after, ts = before ++ .render :: after →
      ({ status := start } : Draft).renderings ts =
        ({ status := start } : Draft).renderings before
          ++ .ok (responseAfter start (Turn.edits before))
          :: (({ status := start } : Draft).edits (Turn.edits before)).renderings after)
    ∧ (∀ es e fs t, (({ status := start } : Draft).edits es).edit e = .error t →
        ({ status := start } : Draft).edits (es ++ e :: fs) =
          ({ status := start } : Draft).edits (es ++ fs))
    ∧ ∀ es, ({ status := start } : Draft).edits (es ++ [.clear]) =
        { status := (({ status := start } : Draft).edits es).status } := by
  refine ⟨?_, fun es e fs t hfail => ?_, fun es => ?_⟩
  · rintro before after rfl
    have hbefore : ∀ e ∈ Turn.edits before, e.IsLatin := by
      intro e he
      refine hlatin e ?_
      rw [Turn.edits, List.filterMap_append]
      exact List.mem_append_left _ he
    rw [renderings_append, renderings, render_edits start hbefore]
  · rw [edits_append, edits_append, edits_cons, attempt_of_error hfail]
  · rw [edits_append]
    rfl

/-- A page, given up for a problem that cannot be written. -/
def abandonedPage : List Turn := [
  .edit (.appendHeader "X-Page" "1"), .edit (.write {} (.text "page") "text/plain"), .render,
  .edit (.setStatus 404), .edit .clear, .edit (.write {} (.float .nan) "application/json"),
  .edit (.appendHeader "X-Trace" "a"), .edit (.appendHeader "X-Trace" "a")]

/-- Nothing of the page is left, and the second rendering is the first one again. -/
theorem abandoned_page_is_rendered_twice :
    (({} : Draft).renderings (abandonedPage ++ [.render, .render])).map Except.toOption =
      [some ⟨200, [("content-length", "6"), ("content-type", "text/plain; charset=utf-8"),
          ("x-page", "1")], "\"page\""⟩,
        some ⟨404, [("content-length", "0"), ("x-trace", "a"), ("x-trace", "a")], ""⟩,
        some ⟨404, [("content-length", "0"), ("x-trace", "a"), ("x-trace", "a")], ""⟩] := by
  have hlatin : ∀ e ∈ Turn.edits (abandonedPage ++ [.render, .render]), e.IsLatin := by decide
  obtain ⟨hrender, -, -⟩ := draft_renders_what_was_written 200 _ hlatin
  rw [hrender (abandonedPage ++ [.render]) [] rfl]
  decide +kernel

end Draft

end Triage
