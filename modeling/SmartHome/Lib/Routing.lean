import Mathlib.Data.List.Basic

/-! # Routers

A router asks its routes in the order in which they were declared, and takes the first whose method and template
match. A parameter of a template matches one part of the path, whatever it is but for the empty text. -/

namespace SmartHome.Routing

/-- A segment of the path of a route. -/
inductive Segment where
  | literal (text : String)
  | parameter (name : String)
  deriving DecidableEq, Repr

/-- A route: method, path and handler. -/
structure Route (μ η : Type) where
  method : μ
  template : List Segment
  handler : η
  deriving DecidableEq, Repr

variable {μ η : Type}

/-- The parameters of the template with their values, when the path has its form. -/
def matchPath : List Segment → List String → Option (List (String × String))
  | [], [] => some []
  | .literal text :: template, part :: path => if part = text then matchPath template path else none
  | .parameter name :: template, part :: path =>
    if part = "" then none else (matchPath template path).map fun rest => (name, part) :: rest
  | _, _ => none

/-- Routes under a common start of their paths. -/
def mount (start : List Segment) (routes : List (Route μ η)) : List (Route μ η) :=
  routes.map fun route => { route with template := start ++ route.template }

section
variable [DecidableEq μ]

/-- The handler and the parameters, if the route takes the request. -/
def Route.accept (method : μ) (path : List String) (route : Route μ η) : Option (η × List (String × String)) :=
  if route.method = method then (matchPath route.template path).map fun parameters => (route.handler, parameters)
  else none

/-- The first route that takes the request. -/
def dispatch (routes : List (Route μ η)) (method : μ) (path : List String) : Option (η × List (String × String)) :=
  routes.findSome? (Route.accept method path)

end

/-! ### More general templates -/

/-- Whatever the second segment takes, the first one takes too. -/
def Segment.covers : Segment → Segment → Bool
  | .parameter _, .parameter _ => true
  | .parameter _, .literal text => text != ""
  | .literal text, .literal text' => text == text'
  | .literal _, .parameter _ => false

/-- Every path of the second template's form has the first one's. -/
def covers : List Segment → List Segment → Bool
  | [], [] => true
  | s :: template, s' :: template' => s.covers s' && covers template template'
  | _, _ => false

theorem matchPath_of_covers {template template' : List Segment} {path : List String}
    (hcovers : covers template template' = true) (h : (matchPath template' path).isSome) :
    (matchPath template path).isSome := by
  induction template generalizing template' path with
  | nil =>
    cases template' with
    | nil => exact h
    | cons => cases hcovers
  | cons s template ih =>
    cases template' with
    | nil => cases hcovers
    | cons s' template' =>
      rw [covers, Bool.and_eq_true] at hcovers
      cases path with
      | nil => cases s' <;> cases h
      | cons part path =>
        cases s' with
        | literal text' =>
          rw [matchPath] at h
          split at h
          · next hpart =>
            have hmatch := ih hcovers.2 h
            cases s with
            | parameter name =>
              have hne : part ≠ "" := by
                rw [hpart]
                exact bne_iff_ne.mp hcovers.1
              rwa [matchPath, if_neg hne, Option.isSome_map]
            | literal text =>
              have htext : text = text' := beq_iff_eq.mp hcovers.1
              rwa [matchPath, if_pos (hpart.trans htext.symm)]
          · cases h
        | parameter name' =>
          rw [matchPath] at h
          split at h
          · cases h
          · next hne =>
            rw [Option.isSome_map] at h
            have hmatch := ih hcovers.2 h
            cases s with
            | parameter name => rwa [matchPath, if_neg hne, Option.isSome_map]
            | literal text => cases hcovers.1

section
variable [DecidableEq μ]

theorem accept_eq_some {route : Route μ η} {method : μ} {path : List String} {handler : η}
    {parameters : List (String × String)} (h : route.accept method path = some (handler, parameters)) :
    route.method = method ∧ route.handler = handler ∧ matchPath route.template path = some parameters := by
  unfold Route.accept at h
  split at h
  · next hmethod =>
    obtain ⟨parameters', hmatch, heq⟩ := Option.map_eq_some_iff.mp h
    cases heq
    exact ⟨hmethod, rfl, hmatch⟩
  · cases h

/-- A handler whose routes all stand behind a more general route of their method is never reached. -/
theorem dispatch_ne_of_covered {before after : List (Route μ η)} {handler : η} {earlier : Route μ η}
    (hother : ∀ route ∈ before, route.handler ≠ handler) (hearlier : earlier ∈ before)
    (hcovered : ∀ route ∈ after, route.handler = handler →
      route.method = earlier.method ∧ covers earlier.template route.template = true)
    (method : μ) (path : List String) (parameters : List (String × String)) :
    dispatch (before ++ after) method path ≠ some (handler, parameters) := by
  intro h
  rw [dispatch, List.findSome?_append, Option.or_eq_some_iff] at h
  rcases h with h | ⟨hnone, h⟩
  · obtain ⟨route, hroute, haccept⟩ := List.exists_of_findSome?_eq_some h
    exact hother route hroute (accept_eq_some haccept).2.1
  · obtain ⟨route, hroute, haccept⟩ := List.exists_of_findSome?_eq_some h
    obtain ⟨hmethod, hhandler, hmatch⟩ := accept_eq_some haccept
    obtain ⟨hsame, hcovers⟩ := hcovered route hroute hhandler
    have hsome : (matchPath earlier.template path).isSome :=
      matchPath_of_covers hcovers (Option.isSome_of_eq_some hmatch)
    have hrefused := List.findSome?_eq_none_iff.mp hnone earlier hearlier
    rw [Route.accept, if_pos (hsame.symm.trans hmethod), Option.map_eq_none_iff] at hrefused
    rw [hrefused] at hsome
    cases hsome

end

end SmartHome.Routing
