import Mathlib.Data.List.DropRight

/-!
# URLs

A hierarchical URL by its components, as a parser keeps it, and the setters that replace one of
them. A path is a list of segments, each in the form in which the parser leaves it (percent-encoded,
none of them a dot segment), so that a path that is put together from such segments is read as
these segments. The query is the list of the pairs that its text denotes.
-/

namespace PhoneBridge.Library

/-! ## Paths -/

/-- The pieces between separators do not contain one. -/
theorem notMem_of_mem_splitOn {α : Type} [DecidableEq α] {separator : α} {xs piece : List α}
    (h : piece ∈ xs.splitOn separator) : separator ∉ piece := by
  induction xs generalizing piece with
  | nil =>
    rw [List.splitOn_nil, List.mem_singleton] at h
    rw [h]
    exact List.not_mem_nil
  | cons x xs ih =>
    rw [List.splitOn_cons_eq_if_modifyHead] at h
    by_cases hx : x = separator
    · rw [if_pos (beq_iff_eq.mpr hx), List.mem_cons] at h
      rcases h with rfl | h
      · exact List.not_mem_nil
      · exact ih h
    · rw [if_neg (mt beq_iff_eq.mp hx)] at h
      cases hpieces : xs.splitOn separator with
      | nil => exact absurd hpieces (List.splitOn_ne_nil separator xs)
      | cons first pieces =>
        rw [hpieces, List.modifyHead_cons, List.mem_cons] at h
        rw [hpieces] at ih
        rcases h with rfl | h
        · rw [List.mem_cons, not_or]
          exact ⟨Ne.symm hx, ih List.mem_cons_self⟩
        · exact ih (List.mem_cons_of_mem first h)

/-- The path of a hierarchical URL. -/
structure UrlPath where
  segments : List (List Char)
  ne_nil : segments ≠ []
  notMem_slash : ∀ segment ∈ segments, '/' ∉ segment

namespace UrlPath

/-- Segments, each after a slash. -/
def printed (segments : List (List Char)) : List Char := segments.flatMap fun s ↦ '/' :: s

/-- The text of a path. -/
def text (p : UrlPath) : List Char := printed p.segments

def withoutSlash : List Char → List Char
  | '/' :: rest => rest
  | text => text

/-- The path of a text; the slash in front may be missing. -/
def ofText (text : List Char) : UrlPath where
  segments := (withoutSlash text).splitOn '/'
  ne_nil := List.splitOn_ne_nil _ _
  notMem_slash := fun _ h ↦ notMem_of_mem_splitOn h

@[simp]
theorem printed_nil : printed [] = [] := rfl

@[simp]
theorem printed_cons (s : List Char) (segments : List (List Char)) :
    printed (s :: segments) = '/' :: (s ++ printed segments) := rfl

@[simp]
theorem printed_append (front back : List (List Char)) :
    printed (front ++ back) = printed front ++ printed back := List.flatMap_append

theorem printed_eq_nil {segments : List (List Char)} : printed segments = [] ↔ segments = [] := by
  cases segments with
  | nil => exact iff_of_true rfl rfl
  | cons s segments => exact iff_of_false nofun nofun

theorem printed_of_ne_nil {segments : List (List Char)} (h : segments ≠ []) :
    printed segments = '/' :: ['/'].intercalate segments := by
  induction segments with
  | nil => exact absurd rfl h
  | cons s segments ih =>
    cases segments with
    | nil => simp
    | cons s' segments =>
      rw [printed_cons, ih (List.cons_ne_nil _ _), List.intercalate_cons_cons]
      simp

/-- A printed list of segments is read as the segments. -/
theorem segments_ofText_printed {segments : List (List Char)} (hne : segments ≠ [])
    (hslash : ∀ s ∈ segments, '/' ∉ s) : (ofText (printed segments)).segments = segments := by
  rw [printed_of_ne_nil hne]
  exact List.splitOn_intercalate '/' hslash hne

/-- Different lists of segments are printed differently. -/
theorem printed_inj {first second : List (List Char)} (hfirst : ∀ s ∈ first, '/' ∉ s)
    (hsecond : ∀ s ∈ second, '/' ∉ s) (h : printed first = printed second) : first = second := by
  by_cases hnil : first = []
  · subst hnil
    exact (printed_eq_nil.mp h.symm).symm
  · have hnil' : second ≠ [] := fun hsecond ↦ hnil (printed_eq_nil.mp (by rw [h, hsecond]; rfl))
    calc
      first = (ofText (printed first)).segments := (segments_ofText_printed hnil hfirst).symm
      _ = (ofText (printed second)).segments := by rw [h]
      _ = second := segments_ofText_printed hnil' hsecond

/-- A printed path ends in printed segments exactly if it ends in the segments. -/
theorem printed_suffix_iff {back segments : List (List Char)} (hback : back ≠ [])
    (hslashBack : ∀ s ∈ back, '/' ∉ s) (hslash : ∀ s ∈ segments, '/' ∉ s) :
    printed back <:+ printed segments ↔ back <:+ segments := by
  constructor
  · intro h
    induction segments with
    | nil =>
      rw [printed_nil, List.suffix_nil, printed_eq_nil] at h
      exact absurd h hback
    | cons s segments ih =>
      obtain ⟨front, hfront⟩ := h
      have hs := hslash s List.mem_cons_self
      have htail := fun t ht ↦ hslash t (List.mem_cons_of_mem s ht)
      cases front with
      | nil =>
        have hsame : back = s :: segments := printed_inj hslashBack hslash hfront
        exact hsame ▸ List.suffix_rfl
      | cons c front =>
        rw [printed_cons, List.cons_append, List.cons.injEq] at hfront
        apply List.suffix_cons_iff.mpr
        apply Or.inr
        rcases List.append_eq_append_iff.mp hfront.2 with ⟨rest, hrest, hprinted⟩ | ⟨rest, -, hrest⟩
        · cases rest with
          | nil =>
            have hsame : back = segments := printed_inj hslashBack htail hprinted
            exact hsame ▸ List.suffix_rfl
          | cons d rest =>
            -- the printed segments would start inside of a segment
            obtain ⟨first, others, rfl⟩ := List.exists_cons_of_ne_nil hback
            rw [printed_cons, List.cons_append, List.cons.injEq] at hprinted
            apply absurd _ hs
            rw [hrest, ← hprinted.1]
            exact List.mem_append_right front List.mem_cons_self
        · exact ih htail ⟨rest, hrest.symm⟩
  · rintro ⟨front, rfl⟩
    rw [printed_append]
    exact List.suffix_append _ _

/-- Without the slashes at its end, a printed path is printed without the empty segments there. -/
theorem rdropWhile_printed {segments : List (List Char)} (hslash : ∀ s ∈ segments, '/' ∉ s) :
    (printed segments).rdropWhile (· == '/') = printed (segments.rdropWhile List.isEmpty) := by
  induction segments using List.reverseRecOn with
  | nil => rfl
  | append_singleton segments s ih =>
    have hs := hslash s (List.mem_append_right segments List.mem_cons_self)
    rw [printed_append, printed_cons, printed_nil, List.append_nil]
    rcases List.eq_nil_or_concat' s with rfl | ⟨front, c, rfl⟩
    · rw [List.rdropWhile_concat_pos _ _ _ rfl, List.rdropWhile_concat_pos _ _ _ rfl]
      exact ih fun t ht ↦ hslash t (List.mem_append_left _ ht)
    · have hc : ¬(c == '/') = true := by
        rw [beq_iff_eq]
        rintro rfl
        exact hs (List.mem_append_right front List.mem_cons_self)
      have hfull : ¬(front ++ [c]).isEmpty = true := by simp
      rw [List.rdropWhile_concat_neg _ _ _ hfull, ← List.cons_append, ← List.append_assoc,
        List.rdropWhile_concat_neg (· == '/') _ c hc, printed_append, printed_cons, printed_nil,
        List.append_nil, List.append_assoc]
      rfl

end UrlPath

/-! ## URLs -/

/-- The schemes whose URLs have a network host. -/
def networkSchemes : List String := ["http", "https", "ws", "wss", "ftp"]

def isSpecial (scheme : String) : Bool := scheme ∈ networkSchemes || scheme = "file"

theorem isSpecial_of_network {scheme : String} (h : scheme ∈ networkSchemes) :
    isSpecial scheme = true := by
  rw [isSpecial, Bool.or_eq_true, decide_eq_true_iff]
  exact Or.inl h

def defaultPort (scheme : String) : Option UInt16 :=
  match scheme with
  | "http" | "ws" => some 80
  | "https" | "wss" => some 443
  | "ftp" => some 21
  | _ => none

structure Url where
  scheme : String
  host : Option String
  /-- The port, unless it is the scheme's own. -/
  port : Option UInt16
  path : UrlPath
  queryPairs : List (String × String)
  host_isSome : scheme ∈ networkSchemes → host.isSome = true
  port_ne_default : ∀ n, port = some n → defaultPort scheme ≠ some n

namespace Url

def portOrKnownDefault (u : Url) : Option UInt16 := u.port.or (defaultPort u.scheme)

/-- The port that is kept for another scheme. -/
def portFor (u : Url) (scheme : String) : Option UInt16 :=
  if u.port = defaultPort scheme then none else u.port

theorem portFor_ne_default (u : Url) (scheme : String) (n : UInt16)
    (h : u.portFor scheme = some n) : defaultPort scheme ≠ some n := by
  unfold portFor at h
  split at h
  · cases h
  · rename_i hne
    rw [← h]
    exact Ne.symm hne

/-- A scheme with the same default port keeps the port. -/
theorem portFor_of_default_eq (u : Url) {scheme : String}
    (h : defaultPort scheme = defaultPort u.scheme) : u.portFor scheme = u.port := by
  unfold portFor
  rw [h]
  cases hport : u.port with
  | none => exact ite_self none
  | some n => exact if_neg (Ne.symm (u.port_ne_default n hport))

/-- Change the scheme; `none` if the URL cannot have it. -/
def setScheme (u : Url) (scheme : String) : Option Url :=
  if isSpecial scheme ≠ isSpecial u.scheme then none
  else if scheme = "file" ∧ u.host.isSome = true then none
  else if hhost : isSpecial scheme = true → u.host.isSome = true then
    some {
      u with
      scheme
      port := u.portFor scheme
      host_isSome := fun h ↦ hhost (isSpecial_of_network h)
      port_ne_default := u.portFor_ne_default scheme }
  else none

def setPath (u : Url) (text : List Char) : Url := { u with path := .ofText text }

/-- Append a pair to the query. -/
def appendPair (u : Url) (name value : String) : Url :=
  { u with queryPairs := u.queryPairs ++ [(name, value)] }

/-- A network URL takes every network scheme. -/
theorem setScheme_of_network (u : Url) {scheme : String} (hold : u.scheme ∈ networkSchemes)
    (hnew : scheme ∈ networkSchemes) :
    ∃ u', u.setScheme scheme = some u' ∧ u'.scheme = scheme ∧ u'.host = u.host ∧
      u'.port = u.portFor scheme ∧ u'.path = u.path ∧ u'.queryPairs = u.queryPairs := by
  have hspecial : isSpecial scheme = isSpecial u.scheme :=
    (isSpecial_of_network hnew).trans (isSpecial_of_network hold).symm
  have hfile : ¬(scheme = "file" ∧ u.host.isSome = true) := by
    rintro ⟨rfl, -⟩
    exact absurd hnew (by decide)
  have hhost : isSpecial scheme = true → u.host.isSome = true := fun _ ↦ u.host_isSome hold
  unfold setScheme
  rw [if_neg (not_not.mpr hspecial), if_neg hfile, dif_pos hhost]
  exact ⟨_, rfl, rfl, rfl, rfl, rfl, rfl⟩

end Url

end PhoneBridge.Library
