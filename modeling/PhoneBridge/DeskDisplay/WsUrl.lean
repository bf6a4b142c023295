import PhoneBridge.DeskDisplay.DisplayConfig

/-!
# The WebSocket URL of the display

What `ws_url` makes of a configured URL, component by component.
-/

namespace PhoneBridge.DeskDisplay

open Library UrlPath

/-! ## The path -/

def ws : List Char := "ws".toList

def display : List Char := "display".toList

/-- The segments of a path without the empty ones at its end. -/
def withoutEmptyEnd (p : UrlPath) : List (List Char) := p.segments.rdropWhile List.isEmpty

/-- The segments, followed by those that are missing from `/ws/display`. -/
def completed (segments : List (List Char)) : List (List Char) :=
  if [ws, display] <:+ segments then segments
  else if [ws] <:+ segments then segments ++ [display]
  else segments ++ [ws, display]

theorem notMem_withoutEmptyEnd (p : UrlPath) : ∀ s ∈ withoutEmptyEnd p, '/' ∉ s :=
  fun s hs ↦ p.notMem_slash s ((List.rdropWhile_prefix _ _).subset hs)

theorem notMem_wsDisplay : ∀ s ∈ [ws, display], '/' ∉ s := by decide

theorem notMem_completed {segments : List (List Char)} (h : ∀ s ∈ segments, '/' ∉ s) :
    ∀ s ∈ completed segments, '/' ∉ s := by
  intro s hs
  unfold completed at hs
  split at hs
  · exact h s hs
  · split at hs
    · rcases List.mem_append.mp hs with hs | hs
      · exact h s hs
      · exact notMem_wsDisplay s (List.mem_cons_of_mem ws hs)
    · rcases List.mem_append.mp hs with hs | hs
      · exact h s hs
      · exact notMem_wsDisplay s hs

theorem completed_ne_nil (segments : List (List Char)) : completed segments ≠ [] := by
  unfold completed
  split
  · rename_i hsuffix
    exact hsuffix.ne_nil (List.cons_ne_nil _ _)
  · split <;> simp

/-- The text that `ws_url` sets, with or without a slash in front, is the one of the completed
segments. -/
theorem withoutSlash_wsPath (p : UrlPath) :
    withoutSlash (wsPath p.text) = withoutSlash (printed (completed (withoutEmptyEnd p))) := by
  have hpaths : p.text.rdropWhile (· == '/') = printed (withoutEmptyEnd p) :=
    rdropWhile_printed p.notMem_slash
  have hslash := notMem_withoutEmptyEnd p
  have hprinted : printed [ws, display] = "/ws/display".toList := by decide
  have hprinted' : printed [ws] = "/ws".toList := by decide
  have hfull : "/ws/display".toList <:+ printed (withoutEmptyEnd p) ↔
      [ws, display] <:+ withoutEmptyEnd p := by
    rw [← hprinted]
    exact printed_suffix_iff (List.cons_ne_nil _ _) notMem_wsDisplay hslash
  have hws : "/ws".toList <:+ printed (withoutEmptyEnd p) ↔ [ws] <:+ withoutEmptyEnd p := by
    rw [← hprinted']
    exact printed_suffix_iff (List.cons_ne_nil _ _) (by decide) hslash
  unfold wsPath completed
  simp only [hpaths, hfull, hws]
  by_cases hcomplete : [ws, display] <:+ withoutEmptyEnd p
  · rw [if_pos hcomplete, if_pos hcomplete]
  · rw [if_neg hcomplete, if_neg hcomplete]
    by_cases hended : [ws] <:+ withoutEmptyEnd p
    · rw [if_pos hended, if_pos hended, printed_append]
      rfl
    · rw [if_neg hended, if_neg hended, printed_append]
      by_cases hnil : withoutEmptyEnd p = []
      · rw [hnil]
        rfl
      · rw [if_neg (mt printed_eq_nil.mp hnil), List.append_assoc]
        rfl

theorem segments_ofText_wsPath (p : UrlPath) :
    (ofText (wsPath p.text)).segments = completed (withoutEmptyEnd p) := by
  have htext : ofText (wsPath p.text) = ofText (printed (completed (withoutEmptyEnd p))) := by
    unfold ofText
    simp only [withoutSlash_wsPath p]
  rw [htext]
  exact segments_ofText_printed (completed_ne_nil _) (notMem_completed (notMem_withoutEmptyEnd p))

/-- An extension of a path that ends in `/ws/display` exactly once, and is no longer than needed. -/
structure CompletedOnce (before after : List (List Char)) : Prop where
  extended : before <+: after
  ends : [ws, display] <:+ after
  once : ¬[ws, display, ws, display] <:+ after
  least : ∀ other, before <+: other → [ws, display] <:+ other → after.length ≤ other.length

/-- A path in which `/ws/display` stands twice at the end once it has been completed. -/
def EndsTwice (segments : List (List Char)) : Prop :=
  [ws, display, ws] <:+ segments ∨ [ws, display, ws, display] <:+ segments

/-- The last segment is `ws` or it is `display`. -/
theorem not_ends_ws_and_display {segments : List (List Char)} (hws : [ws] <:+ segments)
    (hdisplay : [ws, display] <:+ segments) : False := by
  have hlast : [display] <:+ segments := List.IsSuffix.trans ⟨[ws], rfl⟩ hdisplay
  have hsame := (List.suffix_of_suffix_length_le hws hlast le_rfl).eq_of_length rfl
  exact absurd hsame (by decide)

theorem ends_ws_of_append {segments : List (List Char)} {last : List Char}
    (h : [ws, display] <:+ segments ++ [last]) : [ws] <:+ segments := by
  have hlast : [display] <:+ segments ++ [last] := List.IsSuffix.trans ⟨[ws], rfl⟩ h
  have hsame := (List.suffix_of_suffix_length_le hlast (List.suffix_append segments [last])
    le_rfl).eq_of_length rfl
  rw [← hsame] at h
  exact List.suffix_append_self_iff.mp h

/-- Nothing shorter than the completion ends in `/ws/display`. -/
theorem length_completed_le {segments other : List (List Char)} (hextended : segments <+: other)
    (hends : [ws, display] <:+ other) : (completed segments).length ≤ other.length := by
  obtain ⟨added, rfl⟩ := hextended
  unfold completed
  split
  · rw [List.length_append]
    exact Nat.le_add_right _ _
  · rename_i hincomplete
    have hadded : added ≠ [] := by
      rintro rfl
      rw [List.append_nil] at hends
      exact hincomplete hends
    have hpositive := List.length_pos_of_ne_nil hadded
    split
    · rw [List.length_append, List.length_append, List.length_singleton]
      omega
    · rename_i hws
      have hlength : added.length ≠ 1 := by
        intro hone
        obtain ⟨last, rfl⟩ := List.length_eq_one_iff.mp hone
        exact hws (ends_ws_of_append hends)
      rw [List.length_append, List.length_append, List.length_cons, List.length_singleton]
      omega

theorem prefix_completed (segments : List (List Char)) : segments <+: completed segments := by
  unfold completed
  split
  · exact List.prefix_rfl
  · split
    · exact List.prefix_append _ _
    · exact List.prefix_append _ _

theorem suffix_completed (segments : List (List Char)) :
    [ws, display] <:+ completed segments := by
  unfold completed
  split
  · rename_i hcomplete
    exact hcomplete
  · split
    · rename_i hws
      exact (@List.suffix_append_self_iff _ [ws] segments [display]).mpr hws
    · exact List.suffix_append _ _

/-- What is completed ends in `/ws/display` twice if it has been about to. -/
theorem twice_suffix_completed_iff (segments : List (List Char)) :
    [ws, display, ws, display] <:+ completed segments ↔ EndsTwice segments := by
  have hback : [ws, display] <:+ [ws, display, ws, display] := ⟨[ws, display], rfl⟩
  have hback' : [ws] <:+ [ws, display, ws] := ⟨[ws, display], rfl⟩
  unfold completed EndsTwice
  split
  · rename_i hcomplete
    exact ⟨Or.inr, fun h ↦ h.resolve_left fun hws ↦
      not_ends_ws_and_display (hback'.trans hws) hcomplete⟩
  · rename_i hincomplete
    have hnot : ¬[ws, display, ws, display] <:+ segments := fun h ↦ hincomplete (hback.trans h)
    split
    · have hcut : [ws, display, ws, display] <:+ segments ++ [display] ↔
          [ws, display, ws] <:+ segments :=
        @List.suffix_append_self_iff _ [ws, display, ws] segments [display]
      rw [hcut]
      exact ⟨Or.inl, fun h ↦ h.resolve_right hnot⟩
    · rename_i hws
      have hcut : [ws, display, ws, display] <:+ segments ++ [ws, display] ↔
          [ws, display] <:+ segments :=
        @List.suffix_append_self_iff _ [ws, display] segments [ws, display]
      rw [hcut]
      exact ⟨fun h ↦ absurd h hincomplete,
        fun h ↦ h.elim (fun hws' ↦ absurd (hback'.trans hws') hws) fun h' ↦ absurd h' hnot⟩

theorem completedOnce_iff (segments : List (List Char)) :
    CompletedOnce segments (completed segments) ↔ ¬EndsTwice segments := by
  rw [← twice_suffix_completed_iff]
  constructor
  · exact fun h ↦ h.once
  · intro h
    exact {
      extended := prefix_completed segments
      ends := suffix_completed segments
      once := h
      least := fun other ↦ length_completed_le }

/-! ## The URL -/

/-- The schemes that a daemon can be configured with. -/
def webSchemes : List String := ["http", "https", "ws", "wss"]

theorem webSchemes_subset : webSchemes ⊆ networkSchemes := by decide

theorem wsScheme_mem (scheme : String) : wsScheme scheme ∈ networkSchemes := by
  unfold wsScheme
  split <;> decide

theorem wsScheme_eq (scheme : String) : wsScheme scheme = "ws" ∨ wsScheme scheme = "wss" := by
  unfold wsScheme
  split
  · exact Or.inr rfl
  · exact Or.inl rfl

/-- Only `https` becomes `wss`. -/
theorem wsScheme_eq_wss {scheme : String} : wsScheme scheme = "wss" ↔ scheme = "https" := by
  unfold wsScheme
  split
  · exact iff_of_true rfl rfl
  · rename_i hother
    exact iff_of_false (by decide) hother

/-- `ws_url` succeeds, and what it makes of each component. -/
theorem wsUrl_eq {parse : String → Except String Url} {cfg : DisplayConfig} {u : Url}
    (hparse : parse cfg.daemonUrl = .ok u) (hscheme : u.scheme ∈ webSchemes) :
    ∃ out, cfg.wsUrl parse = .ok out ∧ out.scheme = wsScheme u.scheme ∧ out.host = u.host ∧
      out.port = u.portFor (wsScheme u.scheme) ∧
      out.path.segments = completed (withoutEmptyEnd u.path) ∧
      out.queryPairs = u.queryPairs ++ [("token", cfg.token)] := by
  obtain ⟨u', hset, hnew, hhost, hport, hpath, hquery⟩ :=
    u.setScheme_of_network (webSchemes_subset hscheme) (wsScheme_mem u.scheme)
  refine ⟨(u'.setPath (wsPath u'.path.text)).appendPair "token" cfg.token, ?_, hnew, hhost, hport,
    ?_, ?_⟩
  · unfold DisplayConfig.wsUrl
    rw [hparse]
    simp only [hset]
  · rw [← hpath]
    exact segments_ofText_wsPath u'.path
  · rw [← hquery]
    rfl

/-- The WebSocket URL for a configured one and a token. -/
structure RightWsUrl (u : Url) (token : String) (out : Url) : Prop where
  webSocket : out.scheme = "ws" ∨ out.scheme = "wss"
  secure : out.scheme = "wss" ↔ u.scheme = "https" ∨ u.scheme = "wss"
  host : out.host = u.host
  port : out.port = u.port
  effectivePort : out.portOrKnownDefault = u.portOrKnownDefault
  path : CompletedOnce (withoutEmptyEnd u.path) out.path.segments
  token : out.queryPairs.filter (fun pair ↦ pair.1 = "token") = [("token", token)]

/-- The default ports of HTTP and of WebSocket are the same, with and without TLS. -/
theorem defaultPort_wsScheme {scheme : String} (h : scheme ∈ webSchemes) (hwss : scheme ≠ "wss") :
    defaultPort (wsScheme scheme) = defaultPort scheme := by
  revert scheme
  decide

theorem filter_token_append (pairs : List (String × String)) (token : String) :
    (pairs ++ [("token", token)]).filter (fun pair ↦ pair.1 = "token") = [("token", token)] ↔
      ∀ pair ∈ pairs, pair.1 ≠ "token" := by
  rw [List.filter_append]
  have hlast : [("token", token)].filter (fun pair ↦ pair.1 = "token") = [("token", token)] := rfl
  rw [hlast, List.append_left_eq_self, List.filter_eq_nil_iff]
  simp only [decide_eq_true_eq]

/-- The WebSocket URL is right unless the configured one is a `wss` URL already, has a token
already, or has a path that then ends in `/ws/display` twice. -/
theorem ws_url_right_iff (parse : String → Except String Url) (cfg : DisplayConfig) {u : Url}
    (hparse : parse cfg.daemonUrl = .ok u) (hscheme : u.scheme ∈ webSchemes) :
    (∃ out, cfg.wsUrl parse = .ok out ∧ RightWsUrl u cfg.token out) ↔
      u.scheme ≠ "wss" ∧ (∀ pair ∈ u.queryPairs, pair.1 ≠ "token") ∧
        ¬EndsTwice (withoutEmptyEnd u.path) := by
  obtain ⟨out, hout, hnew, hhost, hport, hsegments, hquery⟩ := wsUrl_eq hparse hscheme
  constructor
  · rintro ⟨out', hout', hright⟩
    have hsame : out' = out := Except.ok.inj (hout'.symm.trans hout)
    subst hsame
    refine ⟨?_, ?_, ?_⟩
    · intro hwss
      have hsecure := hright.secure.mpr (Or.inr hwss)
      rw [hnew, hwss] at hsecure
      exact absurd hsecure (by decide)
    · rw [← filter_token_append u.queryPairs cfg.token, ← hquery]
      exact hright.token
    · rw [← completedOnce_iff, ← hsegments]
      exact hright.path
  · rintro ⟨hwss, htoken, honce⟩
    have hdefault := defaultPort_wsScheme hscheme hwss
    have hkept : out.port = u.port := hport.trans (u.portFor_of_default_eq hdefault)
    refine ⟨out, hout, ?_⟩
    constructor
    case webSocket =>
      rw [hnew]
      exact wsScheme_eq u.scheme
    case secure =>
      rw [hnew, wsScheme_eq_wss, or_iff_left hwss]
    case host => exact hhost
    case port => exact hkept
    case effectivePort =>
      rw [Url.portOrKnownDefault, Url.portOrKnownDefault, hkept, hnew, hdefault]
    case path =>
      rw [hsegments, completedOnce_iff]
      exact honce
    case token =>
      rw [hquery, filter_token_append]
      exact htoken

/-- A parser of URLs that knows one of them. -/
def parseOne (known : String) (u : Url) (text : String) : Except String Url :=
  if text = known then .ok u else .error "relative URL without a base"

def pathOf (segment : List Char) (h : '/' ∉ segment) : UrlPath where
  segments := [segment]
  ne_nil := List.cons_ne_nil _ _
  notMem_slash := fun _ hs ↦ List.mem_singleton.mp hs ▸ h

/-- `https://pc.example:9443/api`. -/
def apiUrl : Url where
  scheme := "https"
  host := some "pc.example"
  port := some 9443
  path := pathOf "api".toList (by decide)
  queryPairs := []
  host_isSome := fun _ ↦ rfl
  port_ne_default := by
    intro n hn
    rw [← hn]
    decide

theorem api_ws_url_right :
    ∃ out, DisplayConfig.wsUrl (parseOne "https://pc.example:9443/api" apiUrl)
        { daemonUrl := "https://pc.example:9443/api", token := "t" } = .ok out ∧
      RightWsUrl apiUrl "t" out :=
  (ws_url_right_iff (parseOne "https://pc.example:9443/api" apiUrl)
    { daemonUrl := "https://pc.example:9443/api", token := "t" } (if_pos rfl) (by decide)).mpr
      ⟨by decide, by decide, by unfold EndsTwice; decide⟩

/-- `wss://pc.example/`. -/
def secureUrl : Url where
  scheme := "wss"
  host := some "pc.example"
  port := none
  path := pathOf [] List.not_mem_nil
  queryPairs := []
  host_isSome := fun _ ↦ rfl
  port_ne_default := nofun

/-- A `wss` URL is turned into one without TLS, on another port. -/
theorem wss_is_downgraded :
    ∃ out, DisplayConfig.wsUrl (parseOne "wss://pc.example/" secureUrl)
        { daemonUrl := "wss://pc.example/", token := "t" } = .ok out ∧
      out.scheme = "ws" ∧ secureUrl.portOrKnownDefault = some 443 ∧
      out.portOrKnownDefault = some 80 ∧ ¬RightWsUrl secureUrl "t" out := by
  obtain ⟨out, hout, hnew, -, hport, -, -⟩ := @wsUrl_eq (parseOne "wss://pc.example/" secureUrl)
    { daemonUrl := "wss://pc.example/", token := "t" } secureUrl (if_pos rfl) (by decide)
  have hscheme : out.scheme = "ws" := hnew.trans (by decide)
  have hnone : out.port = none := hport.trans (by decide)
  refine ⟨out, hout, hscheme, by decide, ?_, ?_⟩
  · rw [Url.portOrKnownDefault, hnone, hscheme]
    decide
  · intro hright
    have hsecure := hright.secure.mpr (Or.inr rfl)
    rw [hscheme] at hsecure
    exact absurd hsecure (by decide)

end PhoneBridge.DeskDisplay
