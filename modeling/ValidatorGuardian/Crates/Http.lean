import ValidatorGuardian.Io.Files
import ValidatorGuardian.Support.Codec

/-!
# Applications and their clients

An application is the list of its routes.  What `axum` does with a request, and
what `reqwest` gives its sender, is taken as given; it is relied on for plain
paths and for documents that a codec has written, below the limit on bodies, and
for nothing else.
-/

namespace ValidatorGuardian

open Effect
open Json (Codec)

/-! ## Messages -/

inductive Method where
  | GET
  | POST
deriving DecidableEq

/-- A request, with its path behind the base URL of the client. -/
structure HttpRequest where
  method : Method
  path : Str
  body : Option Json.Value

/-- The body of a response: a document, text, text with an error printed behind
it for debugging, the message of an error, or a text of the framework. -/
inductive HttpBody where
  | empty
  | json (doc : Json.Value)
  | text (s : String)
  | format (s : String) (e : Error)
  | display (e : Error)
  | rejection

structure HttpResponse where
  status : ℕ
  body : HttpBody

/-! ## Routes -/

/-- A segment of the path of a route. -/
inductive Segment where
  | fixed (s : String)
  | capture (name : String)

/-- A path without captures. -/
def fixed (parts : List String) : List Segment :=
  parts.map .fixed

/-- A handler, with what it extracts from the request. -/
inductive Endpoint where
  | plain (handler : Enclave HttpResponse)
  | json {α : Type} (codec : Codec α) (handler : α → Enclave HttpResponse)
  | pathJson {α : Type} (codec : Codec α)
      (handler : Str → α → Enclave HttpResponse)

/-- A handler of a route. -/
structure Route where
  method : Method
  path : List Segment
  endpoint : Endpoint

abbrev App := List Route

def Segment.Fits : Segment → String → Prop
  | fixed s, part => s = part
  | capture _, _ => True

/-- A route is for a method and the segments of a path. -/
def Route.Fits (r : Route) (method : Method) (parts : List String) : Prop :=
  r.method = method ∧ List.Forall₂ Segment.Fits r.path parts

theorem forall₂_fixed {l parts : List String} :
    List.Forall₂ Segment.Fits (fixed l) parts ↔ l = parts := by
  rw [fixed, List.forall₂_map_left_iff]
  exact List.forall₂_eq_eq_eq ▸ Iff.rfl

theorem forall₂_capture {l parts : List String} {name : String} :
    List.Forall₂ Segment.Fits (fixed l ++ [.capture name]) parts ↔
      ∃ part, parts = l ++ [part] := by
  induction l generalizing parts with
  | nil =>
      simp [fixed, Segment.Fits, List.forall₂_cons_left_iff]
  | cons s l ih =>
      have hcons : fixed (s :: l) ++ [.capture name] =
          .fixed s :: (fixed l ++ [.capture name]) := rfl
      rw [hcons, List.forall₂_cons_left_iff]
      constructor
      · rintro ⟨_, parts', rfl, hrest, rfl⟩
        obtain ⟨part, rfl⟩ := ih.mp hrest
        exact ⟨part, rfl⟩
      · rintro ⟨part, rfl⟩
        exact ⟨s, l ++ [part], rfl, ih.mpr ⟨part, rfl⟩, rfl⟩

/-- The one route of an application for a method and the segments of a
path. -/
structure App.Selects (app : App) (route : Route) (parts : List String) :
    Prop where
  mem : route ∈ app
  fits : route.Fits route.method parts
  only : ∀ r ∈ app, r.Fits route.method parts → r = route

/-! ## Calls over a network -/

/-- Why a client has no result: nothing came back, the server refused, or the
body could not be read. -/
inductive ClientError where
  | send
  | refused (body : HttpBody)
  | decode

/-- What the network does to a call. -/
inductive Link where
  | delivers
  | losesRequest
  | losesResponse

/-- Code of a client, as a program of the server's file operations. -/
abbrev Client (α : Type) := ExceptT ClientError (Program FsOp FsOp.Ans) α

/-- What a client makes of a run at the other end.  The connection is closed
when it panics. -/
def Link.carry {α β : Type} (link : Link) (f : α → Except ClientError β)
    (x : Enclave α) : Client β :=
  match link with
  | .losesRequest => ExceptT.mk (.ret (.error .send))
  | .losesResponse => ExceptT.mk (x.run >>= fun _ => .ret (.error .send))
  | .delivers => ExceptT.mk (x.run >>= fun r => .ret (match r with
      | .ok a => f a
      | .error _ => .error .send))

/-- A path behind the base URL of a client. -/
def urlPath (parts : List String) : Str :=
  parts.flatMap fun part => '/' :: part.toList

/-- A segment without characters that a URL escapes. -/
def PlainSegment (part : String) : Prop :=
  part ≠ "" ∧ ∀ c ∈ part.toList, c.isAlphanum = true ∨ c = '-'

instance (part : String) : Decidable (PlainSegment part) :=
  inferInstanceAs (Decidable (_ ∧ _))

/-- Hex is plain. -/
theorem plainSegment_encode {bytes : List UInt8} (hne : bytes ≠ []) :
    PlainSegment (String.ofList (Hex.encode bytes)) := by
  constructor
  · intro h
    have hnil : Hex.encode bytes = [] := by
      simpa using congrArg String.toList h
    cases bytes with
    | nil => exact hne rfl
    | cons b bs => simp [Hex.encode] at hnil
  · intro c hc
    rw [String.toList_ofList] at hc
    obtain ⟨n, hn, rfl⟩ := Hex.exists_digit_of_mem_encode hc
    left
    interval_cases n <;> rfl

/-- `axum`, `reqwest`, and the network between them: what a request to an
application gives its sender, and the length of a document as it is sent. -/
class Http where
  exchange : Link → App → HttpRequest → Client HttpResponse
  contentLength : Json.Value → ℕ

/-- The limit on the bodies that `axum` extracts, of 2 MB. -/
def BODY_LIMIT : ℕ := 2 * 1024 * 1024

/-- What is relied on of `axum` and `reqwest`. -/
structure Http.Laws [Http] : Prop where
  /-- A handler without arguments runs. -/
  plain : ∀ {link app method path handler parts body},
    App.Selects app ⟨method, path, .plain handler⟩ parts →
    (∀ part ∈ parts, PlainSegment part) →
    Http.exchange link app ⟨method, urlPath parts, body⟩ =
      link.carry .ok handler
  /-- The `Json` extractor reads what the codec of its type has written, or
  refuses it. -/
  json : ∀ {link app method path α} {codec : Codec α} {handler parts a},
    App.Selects app ⟨method, path, .json codec handler⟩ parts →
    (∀ part ∈ parts, PlainSegment part) →
    Http.contentLength (codec.encode a) ≤ BODY_LIMIT →
    Http.exchange link app ⟨method, urlPath parts, some (codec.encode a)⟩ =
      link.carry .ok ((codec.decode (codec.encode a)).elim
        (pure ⟨422, .rejection⟩) handler)
  /-- The `Path` extractor gives the segment that is captured. -/
  pathJson : ∀ {link app method path α} {codec : Codec α}
      {handler front part a},
    App.Selects app ⟨method, path, .pathJson codec handler⟩
      (front ++ [part]) →
    (∀ part' ∈ front ++ [part], PlainSegment part') →
    Http.contentLength (codec.encode a) ≤ BODY_LIMIT →
    Http.exchange link app
        ⟨method, urlPath (front ++ [part]), some (codec.encode a)⟩ =
      link.carry .ok ((codec.decode (codec.encode a)).elim
        (pure ⟨422, .rejection⟩) (handler part.toList))

/-! ## An exchange -/

namespace PlainHttp

/-! ### The length of a document -/

/-- The quote, the backslash and five control characters have short
escapes. -/
def charLength (c : Char) : ℕ :=
  if c.toNat < 32 then
    if c.toNat ∈ [8, 9, 10, 12, 13] then 2 else 6
  else if c.toNat = 34 ∨ c.toNat = 92 then 2
  else c.utf8Size

def textLength (s : List Char) : ℕ :=
  2 + (s.map charLength).sum

mutual

def docLength : Json.Value → ℕ
  | .null => 4
  | .bool b => if b then 4 else 5
  | .nat n => (Nat.toDigits 10 n).length
  | .otherNumber => 1
  | .str s => textLength s
  | .escapedStr s => textLength s
  | .arr items => max 2 (1 + itemsLength items)
  | .obj entries => max 2 (1 + entriesLength entries)

def itemsLength : List Json.Value → ℕ
  | [] => 0
  | v :: vs => docLength v + 1 + itemsLength vs

def entriesLength : List (String × Json.Value) → ℕ
  | [] => 0
  | e :: es => entryLength e + 1 + entriesLength es

def entryLength : String × Json.Value → ℕ
  | (key, v) => textLength key.toList + 1 + docLength v

end

/-! ### Dispatch -/

instance : (s : Segment) → (part : String) → Decidable (s.Fits part)
  | .fixed _, _ => inferInstanceAs (Decidable (_ = _))
  | .capture _, _ => .isTrue trivial

instance (r : Route) (method : Method) (parts : List String) :
    Decidable (r.Fits method parts) :=
  inferInstanceAs (Decidable (_ ∧ _))

/-- Split at every slash. -/
def splitPath (s : Str) : Option (List String) :=
  if s.all fun c => c.isAlphanum || c = '-' || c = '/' then
    some ((s.splitOn '/').tail.map String.ofList)
  else none

/-- Extract the arguments of a handler. -/
def answer (endpoint : Endpoint) (parts : List String)
    (body : Option Json.Value) : Enclave HttpResponse :=
  match endpoint, body with
  | .plain handler, _ => handler
  | .json codec handler, some doc =>
      if docLength doc ≤ BODY_LIMIT then
        (codec.decode doc).elim (pure ⟨422, .rejection⟩) handler
      else pure ⟨413, .rejection⟩
  | .pathJson codec handler, some doc =>
      if docLength doc ≤ BODY_LIMIT then
        (codec.decode doc).elim (pure ⟨422, .rejection⟩)
          (handler (parts.getLast?.elim [] String.toList))
      else pure ⟨413, .rejection⟩
  | _, none => pure ⟨415, .rejection⟩

def serve (app : App) (method : Method) (parts : List String)
    (body : Option Json.Value) : Enclave HttpResponse :=
  match app.find? fun r => decide (r.Fits method parts) with
  | some r => answer r.endpoint parts body
  | none => pure ⟨404, .empty⟩

scoped instance : Http where
  exchange link app req :=
    match splitPath req.path with
    | some parts => link.carry .ok (serve app req.method parts req.body)
    | none => ExceptT.mk (.ret (.error .send))
  contentLength := docLength

/-! ### What is relied on -/

theorem append_urlPath (s : Str) (parts : List String) :
    s ++ urlPath parts =
      ['/'].intercalate (s :: parts.map String.toList) := by
  induction parts generalizing s with
  | nil => simp [urlPath]
  | cons part parts ih =>
      rw [List.map_cons, List.intercalate_cons_cons, ← ih]
      simp [urlPath]

theorem splitPath_urlPath {parts : List String}
    (hplain : ∀ part ∈ parts, PlainSegment part) :
    splitPath (urlPath parts) = some parts := by
  have hall : (urlPath parts).all
      (fun c => c.isAlphanum || c = '-' || c = '/') = true := by
    simp only [List.all_eq_true, urlPath, List.mem_flatMap]
    rintro c ⟨part, hpart, hc⟩
    rcases List.mem_cons.mp hc with rfl | hc
    · rfl
    · rcases (hplain part hpart).2 c hc with h | rfl
      · simp [h]
      · rfl
  have hslash : ∀ l ∈ [] :: parts.map String.toList, '/' ∉ l := by
    rintro l hl hc
    rcases List.mem_cons.mp hl with rfl | hl
    · cases hc
    · obtain ⟨part, hpart, rfl⟩ := List.mem_map.mp hl
      rcases (hplain part hpart).2 '/' hc with h | h <;> cases h
  have hsplit := List.splitOn_intercalate '/' hslash (by simp)
  rw [← append_urlPath, List.nil_append] at hsplit
  rw [splitPath, if_pos hall, hsplit]
  simp

theorem serve_of_selects {app : App} {route : Route} {parts : List String}
    (h : app.Selects route parts) (body : Option Json.Value) :
    serve app route.method parts body = answer route.endpoint parts body := by
  have hfind : app.find? (fun r => decide (r.Fits route.method parts)) =
      some route := by
    cases hr : app.find? fun r => decide (r.Fits route.method parts) with
    | none =>
        have hnot := List.find?_eq_none.mp hr route h.mem
        exact absurd (decide_eq_true h.fits) hnot
    | some r =>
        have hfits := List.find?_some
          (p := fun r : Route => decide (r.Fits route.method parts)) hr
        rw [h.only r (List.mem_of_find?_eq_some hr) (of_decide_eq_true hfits)]
  rw [serve, hfind]

theorem exchange_of_selects {link : Link} {app : App} {route : Route}
    {parts : List String} (h : app.Selects route parts)
    (hplain : ∀ part ∈ parts, PlainSegment part) (body : Option Json.Value) :
    Http.exchange link app ⟨route.method, urlPath parts, body⟩ =
      link.carry .ok (answer route.endpoint parts body) := by
  rw [← serve_of_selects h]
  simp only [Http.exchange, splitPath_urlPath hplain]

theorem laws : Http.Laws where
  plain h hplain := exchange_of_selects h hplain _
  json h hplain hlength := by
    refine (exchange_of_selects h hplain _).trans ?_
    exact congrArg _ (if_pos hlength)
  pathJson h hplain hlength := by
    refine (exchange_of_selects h hplain _).trans ?_
    refine congrArg _ ((if_pos hlength).trans ?_)
    rw [List.getLast?_concat]
    rfl

end PlainHttp

end ValidatorGuardian
