import Triage.Proofs.Layers

/-!
# From the endpoint outwards

A request is answered in two halves: first the endpoint is found and called (`called`), and
then what has come of it goes through the layers (`pass_eq`). Of the route that was found
the layers want to know nothing but what it requires. So when endpoints are exchanged and
routes otherwise kept, the first half alone decides about the answer (`pass_mapRoutes`).
-/

namespace Triage.Web

namespace Application

/-- What comes through the layers that show problems, where these are set up. -/
def emerging (a : Application) (c : Call) (requestId : Option String) (found : Found)
    (x : Passing) : Run × Progress :=
  match a.problems, requestId with
  | some problems, some id => shield problems c id found (runOf x.1) x.2
  | _, _ => (runOf x.1, x.2)

/-- What comes through all layers. -/
def outside (a : Application) (c : Call) (requestId : Option String) (found : Found)
    (x : Passing) : Run × Progress :=
  a.emerging c requestId found (answerEarly a c requestId found x.1 x.2)

theorem pass_eq (a : Application) (c : Call) (requestId : Option String) (s : Session) :
    a.pass c requestId s =
      a.outside c requestId (findRoute c a.routes) (a.called c requestId s) := rfl

theorem outside_congr {a b : Application} (hb : b.problems = a.problems) (c : Call)
    (requestId : Option String) {found found' : Found}
    (hfound : found'.requirements = found.requirements) (x : Passing) :
    b.outside c requestId found' x = a.outside c requestId found x := by
  have hexchange : ∀ problems id status p, exchangeFor problems c id found' status p =
      exchangeFor problems c id found status p := by
    intro problems id status p
    unfold exchangeFor
    rw [hfound]
  unfold outside emerging shield answerEarly handleEarly
  simp only [hb, hexchange]

/-- The answer to a request whose id has been settled. -/
theorem answer_eq {a : Application} {c : Call} {s : Session} {requestId : Option String}
    {next : Nat} (h : requestIdOf a c s.nextId = .ok (requestId, next)) :
    a.answer c s = {
      run := Fallback.send (a.pass c requestId s).1
      session := ⟨(a.pass c requestId s).2.store, next, (a.pass c requestId s).2.fresh⟩
      events := (a.pass c requestId s).2.events
      calls := (a.pass c requestId s).2.calls } := by
  unfold answer
  rw [h]
  rfl

end Application

/-! ## Exchanging endpoints -/

/-- A change of routes after which the same are found, with the same requirements. -/
structure Route.IsKept (f : Route → Route) : Prop where
  template : ∀ route, (f route).template = route.template
  method : ∀ route, (f route).method = route.method
  requirements : ∀ route, (f route).endpoint.requirements = route.endpoint.requirements

def Found.map (f : Route → Route) : Found → Found
  | .endpoint route captures => .endpoint (f route) captures
  | .otherMethod route => .otherMethod (f route)
  | .nothing => .nothing

/-- The application with every route changed. -/
def Application.mapRoutes (f : Route → Route) (a : Application) : Application :=
  { a with routes := a.routes.map f }

variable {f : Route → Route}

theorem Route.IsKept.requirements_map (hf : Route.IsKept f) (found : Found) :
    (found.map f).requirements = found.requirements := by
  cases found with
  | endpoint route captures => exact hf.requirements route
  | otherMethod route => exact hf.requirements route
  | nothing => rfl

theorem Route.IsKept.findRoute_map (hf : Route.IsKept f) (c : Call) (routes : List Route) :
    findRoute c (routes.map f) = (findRoute c routes).map f := by
  induction routes with
  | nil => rfl
  | cons route rest ih =>
      rw [List.map_cons]
      unfold findRoute
      rw [ih, hf.template, hf.method]
      cases route.template.match? c.path with
      | none => rfl
      | some captures =>
          dsimp only
          split
          · rfl
          · cases findRoute c rest <;> rfl

theorem Application.called_mapRoutes (hf : Route.IsKept f) (a : Application) (c : Call)
    (requestId : Option String) (s : Session) :
    (a.mapRoutes f).called c requestId s =
      callFound (a.mapRoutes f) c requestId ((findRoute c a.routes).map f) (start c s) := by
  unfold called
  rw [show (a.mapRoutes f).routes = a.routes.map f from rfl, hf.findRoute_map]

/-- With other endpoints on the same routes, another thing is called, and the layers make
of it what they made before. -/
theorem Application.pass_mapRoutes (hf : Route.IsKept f) (a : Application) (c : Call)
    (requestId : Option String) (s : Session) :
    (a.mapRoutes f).pass c requestId s =
      a.outside c requestId (findRoute c a.routes) ((a.mapRoutes f).called c requestId s) := by
  rw [pass_eq, show (a.mapRoutes f).routes = a.routes.map f from rfl, hf.findRoute_map]
  exact outside_congr rfl c requestId (hf.requirements_map _) _

end Triage.Web
