import Mathlib.Tactic.MkIffOfInductiveProp
import Triage.Proofs.HeaderMerging
import Triage.Proofs.Returning

/-!
# What a response says of its body

A problem is drafted with two headers about its body: how many bytes it has, and of what
type it is (`Response.Describes`). An HTTP error that brings headers of these names, in
whatever letter case, has its own values put in their place. So the response still says each
of the two once, but it tells the truth just if what is brought agrees with it
(`Application.problem_describes_its_body_iff`).

That there is a header for the length at all is because the problem has the status of an
error, which always allows a body. For an HTTP error gets out of the endpoint before anything
is remembered of it (`Application.keeps_called`), and is shown as what it is.
-/

namespace Triage

open Http Text Number

namespace Http

namespace Headers

variable {h k : Headers} {brought : List (String × Text)} {name own : String}

/-! ## The last header of a name -/

/-- The value that is brought last for a name, in any letter case. -/
def last? (brought : List (String × Text)) (name : String) : Option String :=
  (valuesBrought brought name).getLast?

/-- What is brought last for a name, if anything is, has this value. -/
def AgreesOn (brought : List (String × Text)) (name value : String) : Prop :=
  ∀ last ∈ last? brought name, last = value

theorem agreesOn_iff : AgreesOn brought name own ↔ (last? brought name).getD own = own := by
  unfold AgreesOn
  cases last? brought name <;> simp

/-- Where there is one header of a name, there is still one after setting what is brought. -/
theorem valuesInAnyCase_of_setAll_single (hsmall : h.AreSmall)
    (hsingle : h.valuesInAnyCase name = [own]) (hset : h.setAll brought = .ok k) :
    k.valuesInAnyCase name = [(last? brought name).getD own] := by
  rw [valuesInAnyCase_of_setAll hsmall hset, hsingle, last?]
  cases (valuesBrought brought name).getLast? <;> rfl

end Headers

/-! ## Describing a body -/

theorem headerText_of_not_isLatinText {s : String} (h : ¬IsLatinText s) :
    ∃ t, headerText s = .error t := by
  unfold headerText
  cases hunfit : beyondLatin? s with
  | none => exact absurd (beyondLatin?_eq_none_iff.mp hunfit) h
  | some run => exact ⟨_, rfl⟩

namespace Response

def lengthName : String := "Content-Length"

def typeName : String := "Content-Type"

/-- A response says once how many bytes its body has, and once that it is of a media type. -/
@[mk_iff]
structure Describes (r : Response) (mediaType : String) : Prop where
  length : r.headers.valuesInAnyCase lengthName = [decimalText (r.body.utf8ByteSize : Nat)]
  type : r.headers.valuesInAnyCase typeName = [contentType mediaType]

theorem isLatinText_contentType_iff {mediaType : String} :
    IsLatinText (contentType mediaType) ↔ IsLatinText mediaType := by
  refine ⟨fun h => ?_, isLatinText_contentType⟩
  unfold contentType at h
  split at h
  · intro c hc
    exact h c (by rw [ofString_append]; exact List.mem_append_left _ hc)
  · exact h

theorem valuesInAnyCase_framing {status : Int} (hstatus : isBodiless status = false)
    (body mediaType : String) :
    Headers.valuesInAnyCase (lengthHeader status body ++ typeHeader (some mediaType)) lengthName =
        [decimalText (body.utf8ByteSize : Nat)]
      ∧ Headers.valuesInAnyCase (lengthHeader status body ++ typeHeader (some mediaType)) typeName =
        [contentType mediaType] := by
  have hlength : lowered "content-length" = "content-length"
      ∧ lowered lengthName = "content-length" := by decide
  have htype : lowered "content-type" = "content-type"
      ∧ lowered typeName = "content-type" := by decide
  unfold lengthHeader typeHeader Headers.valuesInAnyCase
  simp [hstatus, hlength, htype]

end Response

end Http

/-- A draft with nothing but content is rendered just if its media type fits into a header. -/
theorem Draft.render_eq_ok_iff (status : Int) (body mediaType : String) {r : Response} :
    ({ status, content := some ⟨body, mediaType⟩ } : Draft).render = .ok r ↔
      IsLatinText mediaType
        ∧ ⟨status, Response.lengthHeader status body
            ++ Response.typeHeader (some mediaType), body⟩ = r := by
  by_cases htype : IsLatinText mediaType
  · have hsendable : ({ status, content := some ⟨body, mediaType⟩ } : Draft).IsSendable := by
      refine ⟨List.forall_mem_nil _, ?_⟩
      rintro content ⟨⟩
      exact htype
    have hresponse : ({ status, content := some ⟨body, mediaType⟩ } : Draft).response =
        ⟨status, Response.lengthHeader status body
          ++ Response.typeHeader (some mediaType), body⟩ := by
      unfold Draft.response
      rw [List.map_nil, List.append_nil]
      rfl
    rw [Draft.render_of_isSendable hsendable, hresponse, Except.ok.injEq]
    exact (and_iff_right htype).symm
  · obtain ⟨t, ht⟩ := headerText_of_not_isLatinText
      (mt Response.isLatinText_contentType_iff.mp htype)
    have hframing : Response.framing status body.utf8ByteSize (some mediaType) = .error t := by
      unfold Response.framing
      simp only [ht]
    have hmake : Response.make status body (some mediaType) = .error t := by
      unfold Response.make
      simp only [Response.checkBody_ofString, hframing]
    have hrender : ({ status, content := some ⟨body, mediaType⟩ } : Draft).render = .error t := by
      unfold render Draft.body
      simp only [Option.map_some, Option.getD_some, hmake]
    rw [hrender]
    exact ⟨fun h => (nomatch h), fun h => absurd h.1 htype⟩

/-- The headers that an HTTP error brings along. -/
def Error.brought (e : Error) : List (String × Text) :=
  match e.form with
  | .http _ _ _ headers => headers.getD []
  | _ => []

namespace Web

/-! ## The response to a problem -/

variable {draft : Draft} {brought : List (String × Text)} {r : Response} {status : Int}
  {body mediaType : String}

theorem handledResponse_eq_ok_iff :
    handledResponse .problem draft brought = .ok r ↔
      ∃ drafted headers, draft.render = .ok drafted
        ∧ drafted.headers.setAll brought = .ok headers ∧ { drafted with headers } = r := by
  unfold handledResponse Outcome.mergeHeaders
  cases hrender : draft.render with
  | error t => simp
  | ok drafted => cases hset : drafted.headers.setAll brought <;> simp [hset]

theorem exists_handledResponse_iff (status : Int) (body mediaType : String)
    (brought : List (String × Text)) :
    (∃ r, handledResponse .problem { status, content := some ⟨body, mediaType⟩ } brought = .ok r) ↔
      IsLatinText mediaType ∧ ∀ header ∈ brought, IsLatinHeader (lowered header.1, header.2) := by
  constructor
  · rintro ⟨r, hr⟩
    obtain ⟨drafted, headers, hrender, hset, -⟩ := handledResponse_eq_ok_iff.mp hr
    exact ⟨((Draft.render_eq_ok_iff status body mediaType).mp hrender).1,
      (Headers.setAll_eq_ok_iff.mp hset).1⟩
  · rintro ⟨htype, hbrought⟩
    have hrender := (Draft.render_eq_ok_iff status body mediaType).mpr ⟨htype, rfl⟩
    exact ⟨_, handledResponse_eq_ok_iff.mpr
      ⟨_, _, hrender, Headers.setAll_eq_ok_iff.mpr ⟨hbrought, rfl⟩, rfl⟩⟩

/-- Of what an error brings the last header about the length of the body, and the last one
about its type, stand in the place of those that were drafted. -/
theorem values_of_handledResponse (hstatus : isBodiless status = false)
    (h : handledResponse .problem { status, content := some ⟨body, mediaType⟩ } brought = .ok r) :
    r.status = status ∧ r.body = body
      ∧ r.headers.valuesInAnyCase Response.lengthName =
          [(Headers.last? brought Response.lengthName).getD
            (decimalText (body.utf8ByteSize : Nat))]
      ∧ r.headers.valuesInAnyCase Response.typeName =
          [(Headers.last? brought Response.typeName).getD (Response.contentType mediaType)] := by
  obtain ⟨drafted, headers, hrender, hset, rfl⟩ := handledResponse_eq_ok_iff.mp h
  obtain ⟨-, rfl⟩ := (Draft.render_eq_ok_iff status body mediaType).mp hrender
  obtain ⟨hlength, htype⟩ := Response.valuesInAnyCase_framing hstatus body mediaType
  have hsmall : Headers.AreSmall (Response.lengthHeader status body
      ++ Response.typeHeader (some mediaType)) := Draft.isSmall_of_render hrender
  exact ⟨rfl, rfl, Headers.valuesInAnyCase_of_setAll_single hsmall hlength hset,
    Headers.valuesInAnyCase_of_setAll_single hsmall htype hset⟩

theorem handleEarly_of_problem {problems : Problems} {c : Call} {requestId : Option String}
    {found : Found} {i : Incident} {p : Progress} (declined : Except Trouble Response)
    (h : (problems.handler.handle i (exchangeFor problems c requestId found status p)).outcome =
      .ok .problem) :
    (handleEarly problems c requestId found i status brought declined p).1 =
      replyOf (handledResponse .problem
        (problems.handler.handle i (exchangeFor problems c requestId found status p)).exchange.draft
        brought) := by
  unfold handleEarly
  simp only [h]

/-! ## Errors that get out of an endpoint -/

/-- When an incident gets out, this is what is remembered. -/
def Passing.Keeps (x : Passing) (m : Memo) : Prop := ∀ i, x.1 = .error (.incident i) → x.2.memo = m

theorem memo_perform (w : Work) (requestId : Option Text) (p : Progress) :
    (w.perform requestId p).2.memo = p.memo := by
  cases w with
  | done outcome => rfl
  | query q factory =>
      unfold Work.perform
      cases p.store <;> rfl

namespace Endpoint

variable {p : Progress} {m : Memo}

/-- What is answered where an error is remembered is no incident. -/
theorem keeps_answerResult (r : Responder) (result : Result) (place : Place) :
    Passing.Keeps (answerResult r result place p) m := by
  intro i hi
  obtain ⟨t, ht⟩ := trouble_of_replyOf hi
  cases ht

theorem keeps_answerOutcome (e : Endpoint) (r : Responder) (place : Place)
    (outcome : Except Raised Returned) (hp : p.memo = m) :
    Passing.Keeps (e.answerOutcome r place outcome p) m := by
  cases outcome with
  | ok returned =>
      cases returned with
      | result result => exact keeps_answerResult r result place
      | value v => exact fun _ _ => hp
      | reply own => exact fun _ _ => hp
  | error raised =>
      unfold answerOutcome
      dsimp only
      split
      · exact keeps_answerResult r _ place
      · exact fun _ _ => hp

theorem keeps_call (e : Endpoint) (responder : Except Trouble Responder) (path : Text)
    (requestId : Option Text) (arguments : Arguments) (hp : p.memo = m) :
    Passing.Keeps (e.call responder path requestId arguments p) m := by
  have hperformed : ((e.work arguments).perform requestId p).2.memo = m :=
    (memo_perform (e.work arguments) requestId p).trans hp
  unfold call
  rw [perform_eq]
  split
  · cases responder with
    | error t => exact fun _ _ => hp
    | ok r => exact e.keeps_answerOutcome r _ _ hperformed
  · rcases hwork : (e.work arguments).perform requestId p with ⟨outcome, p'⟩
    rw [hwork] at hperformed
    cases outcome <;> exact fun _ _ => hperformed

end Endpoint

namespace Application

variable {a : Application} {problems : Problems} {c : Call} {requestId : Option String}
  {s : Session} {i : Incident} {layer : HttpLayer} {detail : Value}
  {headers : Option (List (String × Text))} {q : Problem}

theorem keeps_called (a : Application) (c : Call) (requestId : Option String) (s : Session) :
    Passing.Keeps (a.called c requestId s) {} := by
  unfold called
  cases findRoute c a.routes with
  | otherMethod route => exact fun _ _ => rfl
  | nothing => exact fun _ _ => rfl
  | endpoint route captures =>
      unfold callFound callRoute
      dsimp only
      split
      · exact fun _ _ => rfl
      · split
        · exact fun _ _ => rfl
        · split
          · exact fun _ _ => rfl
          · exact route.endpoint.keeps_call a.responder _ _ _ rfl

/-! ## HTTP errors -/

/-- What comes of a request where HTTP errors get their answers. -/
def answered (a : Application) (c : Call) (requestId : Option String) (s : Session) : Passing :=
  answerEarly a c requestId (findRoute c a.routes) (a.called c requestId s).1
    (a.called c requestId s).2

/-- The exchange in which an HTTP error of a status is handled. -/
def early (a : Application) (problems : Problems) (c : Call) (requestId : Option String)
    (s : Session) (status : Int) : Exchange :=
  exchangeFor problems c requestId (findRoute c a.routes) status (a.called c requestId s).2

/-- An HTTP error whose handling comes to a problem is answered with what was drafted, and
with the headers that it brings. -/
theorem answered_of_problem (ha : a.problems = some problems)
    (hraised : (a.called c requestId s).1 = .error (.incident i))
    (hhttp : i.error.form = .http layer status detail headers)
    (hproblem : (problems.handler.handle i (a.early problems c requestId s status)).outcome =
      .ok .problem) :
    (a.answered c requestId s).1 = replyOf (handledResponse .problem
      (problems.handler.handle i (a.early problems c requestId s status)).exchange.draft
      i.error.brought) := by
  have hown : Fallback.response? i.error =
      some (Fallback.httpResponse status detail (headers.getD [])) := by
    rw [Fallback.response?, hhttp]
  have hbrought : i.error.brought = headers.getD [] := by
    rw [Error.brought, hhttp]
  unfold answered answerEarly
  rw [hraised]
  simp only [show (Raised.incident i).error = i.error from rfl, hown, ha, hhttp, hbrought]
  exact handleEarly_of_problem _ hproblem

/-- Its draft shows what the error is, with an error status and no headers yet. -/
theorem drafted_of_problem
    (hraised : (a.called c requestId s).1 = .error (.incident i))
    (hproblem : (problems.handler.handle i (a.early problems c requestId s status)).outcome =
      .ok .problem) :
    ∃ q body, (a.early problems c requestId s status).shown i problems.handler.development = .ok q
      ∧ isBodiless q.status = false ∧ problems.format.write q.payload = .ok body
      ∧ (problems.handler.handle i (a.early problems c requestId s status)).exchange.draft =
        { status := q.status, content := some ⟨body, problems.format.contentType⟩ } := by
  have hformat : (a.early problems c requestId s status).request.format =
    some problems.format := rfl
  have hmemo : (a.early problems c requestId s status).memo = {} :=
    a.keeps_called c requestId s i hraised
  rcases problems.handler.handle_cases i hformat with
    ⟨reason, heq⟩ | ⟨t, -, heq⟩ | ⟨q, memo, hshown, -, heq⟩
  · rw [heq] at hproblem
    cases hproblem
  · rw [heq] at hproblem
    cases hproblem
  · rw [heq] at hproblem
    obtain ⟨-, hwritten⟩ := Handler.dispose_of_outcome hproblem
    obtain ⟨body, hwrite, hdraft⟩ := hwritten rfl
    have hstatus : isBodiless q.status = false := by
      have hclassified := hshown
      unfold Exchange.shown at hclassified
      rw [hmemo, Memo.shown_of_unknown rfl] at hclassified
      obtain ⟨sketch, hsketch, rfl⟩ := map_eq_ok_iff.mp hclassified
      obtain ⟨hlow, -⟩ := (Error.isSketch_of_classify hsketch).status
      rw [Problem.withDefaults_status]
      unfold isBodiless
      simp only [Bool.or_eq_false_iff, decide_eq_false_iff_not, beq_eq_false_iff_ne]
      omega
    refine ⟨q, body, hshown, hstatus, hwrite, ?_⟩
    rw [heq]
    exact hdraft

/-- **When a problem describes its body.** Take an HTTP error that comes out of an endpoint and
whose handling comes to a problem. There is a response just if the type of problems and the
headers that the error brings can be kept. Its body is the problem that the error is shown as.
It says once how long the body is and once of what type: what the error brings last about
either, in any letter case, and else what is true. So it describes its body just if the error
brings nothing about it that is not so. -/
theorem problem_describes_its_body_iff (a : Application) (ha : a.problems = some problems)
    (c : Call) (requestId : Option String) (s : Session)
    (hraised : (a.called c requestId s).1 = .error (.incident i))
    (hhttp : i.error.form = .http layer status detail headers)
    (hproblem : (problems.handler.handle i (a.early problems c requestId s status)).outcome =
      .ok .problem) :
    ∃ q body, (a.early problems c requestId s status).shown i problems.handler.development = .ok q
      ∧ problems.format.write q.payload = .ok body
      ∧ ((∃ reply, (a.answered c requestId s).1 = .ok reply) ↔
          IsLatinText problems.format.contentType
            ∧ ∀ header ∈ i.error.brought, IsLatinHeader (lowered header.1, header.2))
      ∧ ∀ reply, (a.answered c requestId s).1 = .ok reply →
          ∃ r, reply = .whole r ∧ r.status = q.status ∧ r.body = body
            ∧ r.headers.valuesInAnyCase Response.lengthName =
                [(Headers.last? i.error.brought Response.lengthName).getD
                  (decimalText (body.utf8ByteSize : Nat))]
            ∧ r.headers.valuesInAnyCase Response.typeName =
                [(Headers.last? i.error.brought Response.typeName).getD
                  (Response.contentType problems.format.contentType)]
            ∧ (r.Describes problems.format.contentType ↔
                Headers.AgreesOn i.error.brought Response.lengthName
                    (decimalText (body.utf8ByteSize : Nat))
                  ∧ Headers.AgreesOn i.error.brought Response.typeName
                      (Response.contentType problems.format.contentType)) := by
  obtain ⟨q, body, hshown, hstatus, hwrite, hdraft⟩ := drafted_of_problem hraised hproblem
  have hanswered := answered_of_problem ha hraised hhttp hproblem
  rw [hdraft] at hanswered
  refine ⟨q, body, hshown, hwrite, ?_, ?_⟩
  · rw [← exists_handledResponse_iff q.status body problems.format.contentType i.error.brought,
      hanswered]
    constructor
    · rintro ⟨reply, hreply⟩
      obtain ⟨r, hr, -⟩ := exists_of_replyOf hreply
      exact ⟨r, hr⟩
    · rintro ⟨r, hr⟩
      exact ⟨.whole r, by rw [hr]; rfl⟩
  · intro reply hreply
    rw [hanswered] at hreply
    obtain ⟨r, hr, rfl⟩ := exists_of_replyOf hreply
    obtain ⟨hq, hbody, hlength, htype⟩ := values_of_handledResponse hstatus hr
    refine ⟨r, rfl, hq, hbody, hlength, htype, ?_⟩
    rw [Response.describes_iff, hlength, htype, hbody]
    simp only [List.cons.injEq, and_true, Headers.agreesOn_iff]

end Application

/-- A page that is gone, which says so with headers of its own. -/
def gone (brought : List (String × Text)) : Incident :=
  ⟨0, .ofHttp .application 404 (.text "gone") (some brought)⟩

def goneRoute (brought : List (String × Text)) : Route where
  template := ⟨"/", [.char '/']⟩
  endpoint := { work := fun _ => .done (.error (.incident (gone brought))) }

def goneHouse (brought : List (String × Text)) : Application :=
  .ofSettings {} {} [goneRoute brought]

def goneProblems : Problems := .ofSettings {} {}

def goneCall : Call := { method := "GET", path := "/" }

/-- The exchange in which it is handled. -/
def goneExchange : Exchange where
  request := { path := "/", format := some goneProblems.format }
  draft := { status := 404 }

theorem findRoute_goneHouse (brought : List (String × Text)) :
    findRoute goneCall (goneHouse brought).routes = .endpoint (goneRoute brought) [] := by
  have hmatch : (goneRoute brought).template.match? goneCall.path = some [] := by
    simp [Template.match?, goneRoute, goneCall, matchPieces]
  show findRoute goneCall [goneRoute brought] = _
  rw [findRoute, hmatch]
  rfl

theorem called_goneHouse (brought : List (String × Text)) :
    (goneHouse brought).called goneCall none {} = (.error (.incident (gone brought)), {}) := by
  unfold Application.called
  rw [findRoute_goneHouse]
  rfl

theorem early_goneHouse (brought : List (String × Text)) :
    (goneHouse brought).early goneProblems goneCall none {} 404 = goneExchange := by
  unfold Application.early
  rw [findRoute_goneHouse, called_goneHouse]
  rfl

/-- The type as it is, and nothing about the length. -/
def ownType : List (String × Text) :=
  [("X-Why", "moved"), ("content-type", "application/problem+json")]

theorem gone_page_describes_its_body :
    ∃ r, ((goneHouse ownType).answered goneCall none {}).1 = .ok (.whole r)
      ∧ r.Describes "application/problem+json" := by
  have hproblem : (goneProblems.handler.handle (gone ownType)
      ((goneHouse ownType).early goneProblems goneCall none {} 404)).outcome = .ok .problem := by
    rw [early_goneHouse]
    exact eq_ok_of_toOption (by decide +kernel)
  obtain ⟨q, body, -, -, hsent, hheaders⟩ := Application.problem_describes_its_body_iff
    (goneHouse ownType) rfl goneCall none {} (congrArg Prod.fst (called_goneHouse ownType)) rfl
    hproblem
  obtain ⟨reply, hreply⟩ := hsent.mpr ⟨by decide, by decide⟩
  obtain ⟨r, rfl, -, -, -, -, hdescribes⟩ := hheaders reply hreply
  refine ⟨r, hreply, hdescribes.mpr ⟨?_, ?_⟩⟩
  · intro length hlength
    have hnone : Headers.last? ownType Response.lengthName = none := by decide
    cases hnone.symm.trans hlength
  · intro type htype
    have hown : Headers.last? ownType Response.typeName = some "application/problem+json" := by
      decide
    obtain rfl := Option.some.inj (hown.symm.trans htype)
    decide

/-- One byte. -/
def oneByte : List (String × Text) := [("Content-Length", "1")]

/-- The body is longer than what is brought says of it. -/
theorem gone_page_says_a_wrong_length :
    (goneProblems.handler.handle (gone oneByte)
        ((goneHouse oneByte).early goneProblems goneCall none {} 404)).outcome = .ok .problem
    ∧ ∃ r, ((goneHouse oneByte).answered goneCall none {}).1 = .ok (.whole r)
        ∧ r.headers.valuesInAnyCase Response.lengthName = ["1"]
        ∧ ¬r.Describes goneProblems.format.contentType := by
  have hraised := congrArg Prod.fst (called_goneHouse oneByte)
  have hproblem : (goneProblems.handler.handle (gone oneByte)
      ((goneHouse oneByte).early goneProblems goneCall none {} 404)).outcome = .ok .problem := by
    rw [early_goneHouse]
    exact eq_ok_of_toOption (by decide +kernel)
  have hlong : decimalText ((goneProblems.handler.handle (gone oneByte)
      ((goneHouse oneByte).early goneProblems goneCall none {}
        404)).exchange.draft.body.utf8ByteSize : Nat) ≠ "1" := by
    rw [early_goneHouse]
    decide +kernel
  obtain ⟨q, body, -, hstatus, hwrite, hdraft⟩ := Application.drafted_of_problem hraised hproblem
  have hanswered := Application.answered_of_problem rfl hraised rfl hproblem
  rw [hdraft] at hanswered hlong
  obtain ⟨r, hr⟩ := (exists_handledResponse_iff q.status body goneProblems.format.contentType
    oneByte).mpr ⟨by decide, by decide⟩
  obtain ⟨-, hbody, hlength, -⟩ := values_of_handledResponse hstatus hr
  have hone : Headers.last? oneByte Response.lengthName = some "1" := by decide
  rw [hone] at hlength
  refine ⟨hproblem, r, hanswered.trans (congrArg replyOf hr), hlength, ?_⟩
  intro hdescribes
  have htrue := hdescribes.length
  rw [hlength, hbody] at htrue
  exact hlong (List.cons.inj htrue).1.symm

end Web

end Triage
