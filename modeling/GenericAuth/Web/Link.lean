import Mathlib.Data.List.TakeWhile

/-! Links, as a client takes them apart, and routers, which choose a handler by the
path and the method of a request. -/
namespace Web

/-! ### URLs -/

/-- Where a server is reached. -/
structure Origin where
  scheme : List Char
  authority : List Char
  scheme_free : ':' ∉ scheme
  authority_free : ∀ c ∈ authority, c ∉ ['/', '?', '#']
  deriving DecidableEq

def Origin.text (origin : Origin) : String :=
  String.ofList (origin.scheme ++ "://".toList ++ origin.authority)

/-- The parts of a URL that a client uses for its request; a fragment is not sent. -/
structure Url where
  scheme : List Char
  authority : List Char
  path : List Char
  query : Option (List Char)
  deriving DecidableEq, Repr

def Url.parse (text : String) : Option Url :=
  match text.toList.dropWhile (· ≠ ':') with
  | ':' :: '/' :: '/' :: rest =>
      let target := rest.dropWhile (· ∉ ['/', '?', '#'])
      some {
        scheme := text.toList.takeWhile (· ≠ ':')
        authority := rest.takeWhile (· ∉ ['/', '?', '#'])
        path := target.takeWhile (· ∉ ['?', '#'])
        query := match target.dropWhile (· ∉ ['?', '#']) with
          | '?' :: query => some (query.takeWhile (· ≠ '#'))
          | _ => none }
  | _ => none

/-- The URL leads to the server at this origin. -/
def Url.AtOrigin (url : Url) (origin : Origin) : Prop :=
  url.scheme = origin.scheme ∧ url.authority = origin.authority

/-- What is appended to an origin is found behind it. -/
theorem Url.parse_append (origin : Origin) {path query : String} {rest : List Char}
    (hSlash : path.toList = '/' :: rest) (hPath : ∀ c ∈ path.toList, c ∉ ['?', '#'])
    (hQuery : '#' ∉ query.toList) :
    Url.parse (origin.text ++ path ++ "?" ++ query) =
      some ⟨origin.scheme, origin.authority, path.toList, some query.toList⟩ := by
  have hText : (origin.text ++ path ++ "?" ++ query).toList =
      origin.scheme ++ ':' :: '/' :: '/' ::
        (origin.authority ++ (path.toList ++ '?' :: query.toList)) := by
    simp [Origin.text]
  have hScheme : ∀ c ∈ origin.scheme, decide (c ≠ ':') = true := by
    intro c hMem
    simpa using ne_of_mem_of_not_mem hMem origin.scheme_free
  have hAuthority : ∀ c ∈ origin.authority, decide (c ∉ ['/', '?', '#']) = true :=
    fun c hMem => decide_eq_true (origin.authority_free c hMem)
  have hPath : ∀ c ∈ path.toList, decide (c ∉ ['?', '#']) = true :=
    fun c hMem => decide_eq_true (hPath c hMem)
  have hQuery : query.toList.takeWhile (· ≠ '#') = query.toList := by
    apply List.takeWhile_eq_self_iff.mpr
    intro c hMem
    simpa using ne_of_mem_of_not_mem hMem hQuery
  have hTarget : (path.toList ++ '?' :: query.toList).takeWhile (· ∉ ['/', '?', '#']) = [] := by
    rw [hSlash]
    rfl
  have hTarget' : (path.toList ++ '?' :: query.toList).dropWhile (· ∉ ['/', '?', '#']) =
      path.toList ++ '?' :: query.toList := by
    rw [hSlash]
    rfl
  simp only [Url.parse, hText]
  rw [List.dropWhile_append_of_pos hScheme, List.takeWhile_append_of_pos hScheme]
  simp only [ne_eq, not_true_eq_false, decide_false, Bool.false_eq_true, not_false_eq_true,
    List.dropWhile_cons_of_neg, List.takeWhile_cons_of_neg, List.append_nil]
  rw [List.dropWhile_append_of_pos hAuthority, List.takeWhile_append_of_pos hAuthority, hTarget,
    hTarget', List.takeWhile_append_of_pos hPath, List.dropWhile_append_of_pos hPath]
  simpa using hQuery

/-! ### Routers -/

inductive Method where
  | get | head | post | put | patch | delete
  | other (name : String)
  deriving DecidableEq, Repr

structure Route (Handler : Type) where
  path : String
  method : Method
  handler : Handler
  deriving DecidableEq, Repr

variable {Handler : Type}

/-- The routes below a prefix. -/
def nest (base : String) (routes : List (Route Handler)) : List (Route Handler) :=
  routes.map fun route => { route with path := base ++ route.path }

def isParameter (pattern : List Char) : Bool :=
  pattern.head? == some '{' && pattern.getLast? == some '}'

/-- The segments in the place of the parameters, if the others are as the pattern says. -/
def captureSegments : List (List Char) → List (List Char) → Option (List (List Char))
  | [], [] => some []
  | pattern :: patterns, segment :: segments =>
      if isParameter pattern then (captureSegments patterns segments).map (segment :: ·)
      else if pattern == segment then captureSegments patterns segments
      else none
  | _, _ => none

/-- A parameter in braces stands for any segment, also for an empty one. -/
def Route.captures (route : Route Handler) (path : List Char) : Option (List (List Char)) :=
  captureSegments (route.path.toList.splitOn '/') (path.splitOn '/')

def Route.matches (route : Route Handler) (path : List Char) : Bool := (route.captures path).isSome

/-- Handlers of GET answer HEAD too. -/
def Route.accepts (route : Route Handler) (method : Method) : Bool :=
  route.method == method || (route.method == .get && method == .head)

inductive Routed (Handler : Type) where
  | handler (handler : Handler)
  | methodNotAllowed
  | notFound
  deriving DecidableEq, Repr

def dispatch (routes : List (Route Handler)) (method : Method) (path : List Char) :
    Routed Handler :=
  match routes.filter fun route => route.matches path with
  | [] => .notFound
  | first :: others =>
      match (first :: others).find? fun route => route.accepts method with
      | some route => .handler route.handler
      | none => .methodNotAllowed

theorem eq_of_captureSegments {patterns segments captured : List (List Char)}
    (static : ∀ pattern ∈ patterns, isParameter pattern = false)
    (h : captureSegments patterns segments = some captured) :
    patterns = segments ∧ captured = [] := by
  induction patterns generalizing segments with
  | nil =>
      cases segments with
      | nil => exact ⟨rfl, (Option.some.inj h).symm⟩
      | cons => cases h
  | cons pattern patterns ih =>
      cases segments with
      | nil => cases h
      | cons segment segments =>
          simp only [captureSegments, static pattern List.mem_cons_self, Bool.false_eq_true, if_false,
            Option.ite_none_right_eq_some, beq_iff_eq] at h
          obtain ⟨rfl, rfl⟩ := ih (fun other hMem => static other (List.mem_cons_of_mem _ hMem)) h.2
          exact ⟨by rw [h.1], rfl⟩

/-- A route without parameters matches its own path only. -/
theorem Route.eq_of_matches {route : Route Handler} {path : List Char}
    (static : ∀ pattern ∈ route.path.toList.splitOn '/', isParameter pattern = false)
    (h : route.matches path = true) : path = route.path.toList := by
  have hJoin : ['/'].intercalate (path.splitOn '/') = path := List.intercalate_splitOn '/'
  obtain ⟨captured, hCaptured⟩ := Option.isSome_iff_exists.mp h
  rw [← (eq_of_captureSegments static hCaptured).1, List.intercalate_splitOn] at hJoin
  exact hJoin.symm

/-- A route with one parameter captures the segment in its place. -/
theorem segments_of_captures {before after segments captured : List (List Char)}
    {pattern : List Char} (static : ∀ pattern ∈ before ++ after, isParameter pattern = false)
    (hPattern : isParameter pattern = true)
    (h : captureSegments (before ++ pattern :: after) segments = some captured) :
    ∃ segment, segments = before ++ segment :: after ∧ captured = [segment] := by
  induction before generalizing segments with
  | nil =>
      cases segments with
      | nil => cases h
      | cons segment segments =>
          simp only [List.nil_append, captureSegments, hPattern, if_true] at h
          obtain ⟨rest, hRest, rfl⟩ := Option.map_eq_some_iff.mp h
          obtain ⟨rfl, rfl⟩ := eq_of_captureSegments (by simpa using static) hRest
          exact ⟨segment, rfl, rfl⟩
  | cons first before ih =>
      cases segments with
      | nil => cases h
      | cons segment segments =>
          simp only [List.cons_append, captureSegments, static first (by simp), Bool.false_eq_true,
            if_false, Option.ite_none_right_eq_some, beq_iff_eq] at h
          obtain ⟨rest, rfl, hRest⟩ := ih (fun other hMem => static other (by simp_all)) h.2
          exact ⟨rest, by rw [h.1]; rfl, hRest⟩

/-- A chosen handler has a route that matches. -/
theorem dispatch_handler {routes : List (Route Handler)} {method : Method} {path : List Char}
    {handler : Handler} (h : dispatch routes method path = .handler handler) :
    ∃ route ∈ routes, route.handler = handler ∧ route.matches path = true := by
  unfold dispatch at h
  split at h
  · cases h
  · next first others hFound =>
      split at h
      · next route hRoute =>
          cases h
          have hMem := List.mem_of_find?_eq_some hRoute
          rw [← hFound] at hMem
          exact ⟨route, (List.mem_filter.mp hMem).1, rfl, (List.mem_filter.mp hMem).2⟩
      · cases h

end Web
