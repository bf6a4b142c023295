import PhoneBridge.DeskDisplay.WindowsBackend
import PhoneBridge.Library.Xml

/-!
# The markup of a toast

What an XML reader makes of `build_toast_xml`.
-/

namespace PhoneBridge.DeskDisplay.WindowsBackend

open Library Xml

/-! ## The intended elements -/

def actionNode (action : String × String) : Node :=
  .element "action" [("content", action.2), ("arguments", buttonArguments action.1),
    ("activationType", "foreground")] []

def textElement (s : String) : Node := .element "text" [] (textNodes s.toList)

def visualNode (title body : String) : Node :=
  .element "visual" [] [.text "\n    ",
    .element "binding" [("template", "ToastGeneric")] [.text "\n      ", textElement title,
      .text "\n      ", textElement body, .text "\n    "],
    .text "\n  "]

/-- The buttons; a toast without buttons has no element for them. -/
def actionsNodes (actions : List (String × String)) : List Node :=
  if actions = [] then [.text "\n  \n"]
  else [.text "\n  ", .element "actions" [] (actions.map actionNode), .text "\n"]

def toastNode (title body : String) (actions : List (String × String)) : Node :=
  .element "toast" [("activationType", "foreground"), ("launch", "phonebridge://action/noop")]
    ([.text "\n  ", visualNode title body] ++ actionsNodes actions)

/-! ## Escaping -/

theorem replace_toList (c : Char) (entity s : String) :
    (replace c entity s).toList = s.toList.flatMap fun d ↦ if d = c then entity.toList else [d] :=
  String.toList_ofList

/-- The four replacements, in their order, replace every special character once. -/
theorem esc_toList (s : String) : (esc s).toList = escape s.toList := by
  unfold esc escape
  rw [replace_toList, replace_toList, replace_toList, replace_toList, List.flatMap_assoc,
    List.flatMap_assoc, List.flatMap_assoc]
  congr 1
  funext c
  rcases special_or_plain c with (rfl | rfl | rfl | rfl) | hplain
  · rfl
  · rfl
  · rfl
  · rfl
  · rw [escapeChar_of_plain hplain]
    simp only [List.mem_cons, List.not_mem_nil, or_false, not_or] at hplain
    simp only [if_neg hplain.1, if_neg hplain.2.1, if_neg hplain.2.2.1, if_neg hplain.2.2.2,
      List.flatMap_cons, List.flatMap_nil, List.append_nil]

/-! ## The markup as tags and texts -/

def actionToken (action : String × String) : Token :=
  .emptyTag "action" [("content", action.2), ("arguments", buttonArguments action.1),
    ("activationType", "foreground")]

def actionsTokens (actions : List (String × String)) : List Token :=
  if actions = [] then [.text "\n  \n"]
  else [.text "\n  ", .startTag "actions" []] ++ actions.map actionToken ++
    [.endTag "actions", .text "\n"]

def visualTokens (title body : String) : List Token :=
  [.startTag "visual" [], .text "\n    ", .startTag "binding" [("template", "ToastGeneric")],
    .text "\n      ", .startTag "text" [], .text title, .endTag "text",
    .text "\n      ", .startTag "text" [], .text body, .endTag "text",
    .text "\n    ", .endTag "binding", .text "\n  ", .endTag "visual"]

def toastTokens (title body : String) (actions : List (String × String)) : List Token :=
  [.startTag "toast" [("activationType", "foreground"), ("launch", "phonebridge://action/noop")],
    .text "\n  "] ++ (visualTokens title body ++ (actionsTokens actions ++ [.endTag "toast"]))

section Tokens

variable (pending : List (Tag × List Node)) (nodes : List Node)

theorem pushAll_visualTokens (characters : List Char) (title body : String) :
    Content.pushAll ⟨pending, nodes, characters⟩ (visualTokens title body) =
      some ⟨pending, nodes ++ textNodes characters ++ [visualNode title body], []⟩ := rfl

theorem pushAll_actionTokens (actions : List (String × String)) :
    Content.pushAll ⟨pending, nodes, []⟩ (actions.map actionToken) =
      some ⟨pending, nodes ++ actions.map actionNode, []⟩ := by
  induction actions generalizing nodes with
  | nil => rw [List.map_nil, List.map_nil, List.append_nil]; rfl
  | cons action actions ih =>
    have hpush : Content.push ⟨pending, nodes, []⟩ (actionToken action) =
        some ⟨pending, nodes ++ [] ++ [actionNode action], []⟩ := rfl
    rw [List.map_cons, Content.pushAll_cons, hpush, Option.bind_some, ih, List.append_nil,
      List.append_assoc]
    rfl

/-- The buttons and the end of the toast. -/
theorem pushAll_actionsTokens (t : Tag) (ht : t.name = "toast".toList)
    (actions : List (String × String)) :
    Content.pushAll ⟨[(t, [])], nodes, []⟩ (actionsTokens actions ++ [.endTag "toast"]) =
      some ⟨[], [t.node (nodes ++ actionsNodes actions)], []⟩ := by
  have hend (inner : List Node) (characters : List Char) :
      Content.pushAll ⟨[(t, [])], inner, characters⟩ [.endTag "toast"] =
        some ⟨[], [t.node (inner ++ textNodes characters)], []⟩ := by
    simp [Content.pushAll, Content.push, ht, Content.flushed]
  unfold actionsTokens actionsNodes
  by_cases hempty : actions = []
  · rw [if_pos hempty, if_pos hempty]
    exact hend nodes _
  · rw [if_neg hempty, if_neg hempty, Content.pushAll_append, Content.pushAll_append,
      Content.pushAll_append]
    have hfront : Content.pushAll ⟨[(t, [])], nodes, []⟩
        [.text "\n  ", .startTag "actions" []] =
          some ⟨[(.of "actions" [], nodes ++ [.text "\n  "]), (t, [])], [], []⟩ := rfl
    have hback : Content.pushAll ⟨[(.of "actions" [], nodes ++ [.text "\n  "]), (t, [])],
        actions.map actionNode, []⟩ [.endTag "actions", .text "\n"] =
          some ⟨[(t, [])], nodes ++ [.text "\n  "] ++
            [.element "actions" [] (actions.map actionNode ++ [])], "\n".toList⟩ := rfl
    rw [hfront, Option.bind_some, pushAll_actionTokens, Option.bind_some, List.nil_append, hback,
      Option.bind_some, hend, List.append_nil, List.append_assoc, List.append_assoc]
    rfl

end Tokens

/-- The tags and texts make the intended elements. -/
theorem pushAll_toastTokens (title body : String) (actions : List (String × String)) :
    Content.start.pushAll (toastTokens title body actions) =
      some ⟨[], [toastNode title body actions], []⟩ := by
  let t : Tag := .of "toast"
    [("activationType", "foreground"), ("launch", "phonebridge://action/noop")]
  have hfront : Content.start.pushAll [.startTag "toast"
      [("activationType", "foreground"), ("launch", "phonebridge://action/noop")],
      .text "\n  "] = some ⟨[(t, [])], [], "\n  ".toList⟩ := rfl
  have hnode (children : List Node) : t.node children = .element "toast"
      [("activationType", "foreground"), ("launch", "phonebridge://action/noop")] children :=
    Tag.node_of _ _ _
  rw [toastTokens, Content.pushAll_append, hfront, Option.bind_some, Content.pushAll_append,
    pushAll_visualTokens, Option.bind_some, pushAll_actionsTokens _ _ rfl, hnode]
  rfl

theorem isValid_actionToken (action : String × String) :
    (actionToken action).isValid = true := by
  have hnames : (isName "action".toList &&
      ["content", "arguments", "activationType"].all (fun a ↦ isName a.toList) &&
        decide ["content", "arguments", "activationType"].Nodup) = true := by decide
  exact hnames

theorem isValid_toastTokens (title body : String) (actions : List (String × String)) :
    (toastTokens title body actions).all Token.isValid = true := by
  have hactions : (actions.map actionToken).all Token.isValid = true := by
    rw [List.all_map, List.all_eq_true]
    exact fun action _ ↦ isValid_actionToken action
  unfold toastTokens actionsTokens
  rw [List.all_append, List.all_append, List.all_append]
  split
  · rfl
  · rw [List.all_append, List.all_append, hactions]
    rfl

/-! ## The markup of a toast -/

/-- The keys of the backend's own buttons. -/
def actionKeys : List String := ["reply", "mark_read", "dismiss", "answer", "hangup"]

theorem escape_buttonArguments {key : String} (h : key ∈ actionKeys) :
    escape (buttonArguments key).toList = (buttonArguments key).toList := by
  have hplain : (actionKeys.all fun key ↦ (buttonArguments key).toList.all fun c ↦
      decide (c ∉ ['&', '<', '>', '"'])) = true := by decide
  simp only [List.all_eq_true, decide_eq_true_eq] at hplain
  exact escape_of_plain (hplain key h)

theorem renderAttribute_arguments {key : String} (h : key ∈ actionKeys) :
    renderAttribute ("arguments", buttonArguments key) =
      " arguments=\"".toList ++ ((buttonArguments key).toList ++ ['"']) := by
  simp [renderAttribute, escape_buttonArguments h]

theorem renderAttribute_content (label : String) :
    renderAttribute ("content", label) =
      " content=\"".toList ++ (escape label.toList ++ ['"']) := by
  simp [renderAttribute]

theorem renderAttribute_activationType :
    renderAttribute ("activationType", "foreground") =
      " activationType=\"foreground\"".toList := by decide

theorem actionElement_toList {action : String × String} (h : action.1 ∈ actionKeys) :
    (actionElement action).toList = (actionToken action).render := by
  have hcontent := renderAttribute_content action.2
  have harguments := renderAttribute_arguments h
  have hactivation := renderAttribute_activationType
  unfold actionElement actionToken
  dsimp only [Token.render]
  simp only [List.flatMap_cons, List.flatMap_nil, hcontent, harguments, hactivation,
    String.toList_append, esc_toList]
  simp

/-- The elements of the buttons, one after the other. -/
theorem join_actionElements {actions : List (String × String)}
    (h : ∀ action ∈ actions, action.1 ∈ actionKeys) :
    (String.join (actions.map actionElement)).toList =
      (actions.map actionToken).flatMap Token.render := by
  rw [String.toList_join, List.flatMap_map, List.flatMap_map]
  exact List.flatMap_congr fun action haction ↦ actionElement_toList (h action haction)

theorem render_visualTokens (title body : String) :
    (visualTokens title body).flatMap Token.render =
      "<visual>\n    <binding template=\"ToastGeneric\">\n      <text>".toList ++
        (escape title.toList ++ ("</text>\n      <text>".toList ++
          (escape body.toList ++ "</text>\n    </binding>\n  </visual>".toList))) := by
  have hfront : [Token.startTag "visual" [], .text "\n    ",
      .startTag "binding" [("template", "ToastGeneric")], .text "\n      ",
      .startTag "text" []].flatMap Token.render =
        "<visual>\n    <binding template=\"ToastGeneric\">\n      <text>".toList := by decide +kernel
  have hmiddle : [Token.endTag "text", .text "\n      ", .startTag "text" []].flatMap Token.render =
      "</text>\n      <text>".toList := by decide +kernel
  have hback : [Token.endTag "text", .text "\n    ", .endTag "binding", .text "\n  ",
      .endTag "visual"].flatMap Token.render =
        "</text>\n    </binding>\n  </visual>".toList := by decide +kernel
  rw [← hfront, ← hmiddle, ← hback]
  unfold visualTokens
  simp only [List.flatMap_cons, List.flatMap_nil, List.append_assoc, List.append_nil]
  rfl

theorem actionElement_ne_nil (action : String × String) : (actionElement action).toList ≠ [] := by
  intro hnil
  unfold actionElement at hnil
  simp only [String.toList_append, List.append_eq_nil_iff] at hnil
  exact absurd hnil.1.1.1.1 (by decide)

theorem join_actionElements_eq_empty {actions : List (String × String)} :
    String.join (actions.map actionElement) = "" ↔ actions = [] := by
  constructor
  · intro h
    cases actions with
    | nil => rfl
    | cons action actions =>
      have hlist : (String.join ((action :: actions).map actionElement)).toList = [] := by
        rw [h]
        rfl
      rw [String.toList_join, List.map_cons, List.flatMap_cons, List.append_eq_nil_iff] at hlist
      exact absurd hlist.1 (actionElement_ne_nil action)
  · rintro rfl
    rfl

/-- The text of the buttons. -/
def actionsBlock (actions : List (String × String)) : String :=
  if String.join (actions.map actionElement) = "" then ""
  else "<actions>" ++ String.join (actions.map actionElement) ++ "</actions>"

/-- The buttons, and what surrounds them. -/
theorem render_actionsTokens {actions : List (String × String)}
    (h : ∀ action ∈ actions, action.1 ∈ actionKeys) :
    (actionsTokens actions).flatMap Token.render =
      "\n  ".toList ++ ((actionsBlock actions).toList ++ "\n".toList) := by
  unfold actionsTokens actionsBlock
  by_cases hempty : actions = []
  · rw [if_pos hempty, if_pos (join_actionElements_eq_empty.mpr hempty)]
    decide
  · rw [if_neg hempty, if_neg (mt join_actionElements_eq_empty.mp hempty), List.flatMap_append,
      List.flatMap_append, ← join_actionElements h, String.toList_append, String.toList_append]
    have hfront : [Token.text "\n  ", .startTag "actions" []].flatMap Token.render =
        "\n  ".toList ++ "<actions>".toList := by decide +kernel
    have hback : [Token.endTag "actions", .text "\n"].flatMap Token.render =
        "</actions>".toList ++ "\n".toList := by decide +kernel
    rw [hfront, hback]
    simp only [List.append_assoc]

theorem render_toastTokens (title body : String) {actions : List (String × String)}
    (h : ∀ action ∈ actions, action.1 ∈ actionKeys) :
    (toastTokens title body actions).flatMap Token.render =
      ("<toast activationType=\"foreground\" launch=\"phonebridge://action/noop\">\n".toList ++
        "  ".toList) ++
      (("<visual>\n    <binding template=\"ToastGeneric\">\n      <text>".toList ++
        (escape title.toList ++ ("</text>\n      <text>".toList ++
          (escape body.toList ++ "</text>\n    </binding>\n  </visual>".toList)))) ++
      (("\n  ".toList ++ ((actionsBlock actions).toList ++ "\n".toList)) ++
        "</toast>".toList)) := by
  have hfront : [Token.startTag "toast" [("activationType", "foreground"),
      ("launch", "phonebridge://action/noop")], .text "\n  "].flatMap Token.render =
        "<toast activationType=\"foreground\" launch=\"phonebridge://action/noop\">\n".toList ++
          "  ".toList := by decide +kernel
  have hback : [Token.endTag "toast"].flatMap Token.render = "</toast>".toList := by decide +kernel
  have hvisual := render_visualTokens title body
  have hactions := render_actionsTokens h
  unfold toastTokens
  simp only [List.flatMap_append, hfront, hback, hvisual, hactions]

theorem regroup {a b c d : List Char} (h : a ++ b = c ++ d) (rest : List Char) :
    a ++ (b ++ rest) = c ++ (d ++ rest) := by
  rw [← List.append_assoc, h, List.append_assoc]

/-- `build_toast_xml` writes the intended tags and texts. -/
theorem buildToastXml_eq {toast : MockToast}
    (h : ∀ action ∈ toast.actions, action.1 ∈ actionKeys) :
    buildToastXml toast =
      String.ofList ((toastTokens toast.title toast.body toast.actions).flatMap Token.render) := by
  have hblock : buildToastXml toast =
      "<toast activationType=\"foreground\" launch=\"phonebridge://action/noop\">\n" ++
        "  <visual>\n    <binding template=\"ToastGeneric\">\n" ++
        "      <text>" ++ esc toast.title ++ "</text>\n      <text>" ++ esc toast.body ++
        "</text>\n" ++ "    </binding>\n  </visual>\n  " ++ actionsBlock toast.actions ++
        "\n</toast>" := rfl
  -- the lines of the source end elsewhere than the tokens
  have hfront : "  <visual>\n    <binding template=\"ToastGeneric\">\n".toList ++
      "      <text>".toList =
        "  ".toList ++
          "<visual>\n    <binding template=\"ToastGeneric\">\n      <text>".toList := by decide +kernel
  have hvisual : "</text>\n".toList ++ "    </binding>\n  </visual>\n  ".toList =
      "</text>\n    </binding>\n  </visual>".toList ++ "\n  ".toList := by decide +kernel
  have hback : "\n</toast>".toList = "\n".toList ++ "</toast>".toList := by decide +kernel
  apply String.toList_inj.mp
  rw [String.toList_ofList, render_toastTokens _ _ h, hblock]
  simp only [String.toList_append, esc_toList, List.append_assoc]
  rw [regroup hfront, regroup hvisual, hback]

/-- Whatever its texts, the markup of a toast is read as the intended elements: no text can end or
add one. -/
theorem read_buildToastXml {toast : MockToast}
    (h : ∀ action ∈ toast.actions, action.1 ∈ actionKeys) :
    read (buildToastXml toast) = some (toastNode toast.title toast.body toast.actions) := by
  rw [buildToastXml_eq h,
    read_render (isValid_toastTokens _ _ _) (pushAll_toastTokens _ _ _)]
  rfl

/-- The texts of a toast consist of characters that a document may contain. -/
def hasCharsOnly (title body : String) (actions : List (String × String)) : Bool :=
  title.toList.all isChar && body.toList.all isChar &&
    actions.all fun action ↦ action.2.toList.all isChar

theorem all_isChar_actionTokens {actions : List (String × String)}
    (h : ∀ action ∈ actions, action.1 ∈ actionKeys) :
    ((actions.map actionToken).flatMap Token.characters).all isChar =
      actions.all fun action ↦ action.2.toList.all isChar := by
  have harguments : ∀ key ∈ actionKeys, (buttonArguments key).toList.all isChar = true := by
    decide +kernel
  have hforeground : "foreground".toList.all isChar = true := by decide +kernel
  induction actions with
  | nil => rfl
  | cons action actions ih =>
    have hkey := harguments action.1 (h action List.mem_cons_self)
    have hrest := ih fun other hother ↦ h other (List.mem_cons_of_mem action hother)
    have hcharacters : (actionToken action).characters =
        action.2.toList ++ ((buttonArguments action.1).toList ++ ("foreground".toList ++ [])) := rfl
    rw [List.map_cons, List.flatMap_cons, List.all_append, hrest, hcharacters, List.all_append,
      List.all_append, List.all_append, hkey, hforeground]
    simp

theorem all_isChar_toastTokens (title body : String) {actions : List (String × String)}
    (h : ∀ action ∈ actions, action.1 ∈ actionKeys) :
    ((toastTokens title body actions).flatMap Token.characters).all isChar =
      hasCharsOnly title body actions := by
  have hactions : ((actionsTokens actions).flatMap Token.characters).all isChar =
      actions.all fun action ↦ action.2.toList.all isChar := by
    unfold actionsTokens
    split
    · rename_i hempty
      rw [hempty]
      decide
    · simp only [List.flatMap_append, List.all_append, all_isChar_actionTokens h]
      simp [Token.characters, isChar]
  have hfront : ([Token.startTag "toast" [("activationType", "foreground"),
      ("launch", "phonebridge://action/noop")], .text "\n  "].flatMap Token.characters).all
        isChar = true := by decide +kernel
  have hvisual : ((visualTokens title body).flatMap Token.characters).all isChar =
      (title.toList.all isChar && body.toList.all isChar) := by
    unfold visualTokens
    simp [Token.characters, isChar]
  have hback : ([Token.endTag "toast"].flatMap Token.characters).all isChar = true := rfl
  unfold toastTokens hasCharsOnly
  simp only [List.flatMap_append, List.all_append, hfront, hvisual, hactions, hback,
    Bool.true_and, Bool.and_true]

/-! ## What a parser makes of a toast -/

/-- A parser accepts the markup of a toast as the intended document, or not at all. -/
theorem parse_buildToastXml {toast : MockToast}
    (h : ∀ action ∈ toast.actions, action.1 ∈ actionKeys) :
    parse (buildToastXml toast) =
      if hasCharsOnly toast.title toast.body toast.actions then
        some (toastNode toast.title toast.body toast.actions)
      else none := by
  rw [buildToastXml_eq h,
    parse_render (isValid_toastTokens _ _ _) (pushAll_toastTokens _ _ _),
    all_isChar_toastTokens _ _ h]
  rfl

/-- A parser makes the intended document of a toast exactly if its texts consist of characters that
XML has. -/
theorem toast_markup_exact_iff (toast : MockToast)
    (h : ∀ action ∈ toast.actions, action.1 ∈ actionKeys) :
    parse (buildToastXml toast) =
        some (toastNode toast.title toast.body toast.actions) ↔
      (∀ c ∈ toast.title.toList, isChar c) ∧ (∀ c ∈ toast.body.toList, isChar c) ∧
        ∀ action ∈ toast.actions, ∀ c ∈ action.2.toList, isChar c := by
  have hchars : hasCharsOnly toast.title toast.body toast.actions = true ↔
      (∀ c ∈ toast.title.toList, isChar c) ∧ (∀ c ∈ toast.body.toList, isChar c) ∧
        ∀ action ∈ toast.actions, ∀ c ∈ action.2.toList, isChar c := by
    simp only [hasCharsOnly, Bool.and_eq_true, List.all_eq_true, and_assoc]
  rw [parse_buildToastXml h, ← hchars]
  split
  · rename_i hlegal
    exact iff_of_true rfl hlegal
  · rename_i hillegal
    exact iff_of_false nofun hillegal

/-- A toast with these texts and one button. -/
def sampleToast (title body : String) : MockToast where
  kind := .sms
  actions := [("reply", "Reply")]
  envelopeId := ⟨1⟩
  deviceId := ⟨2⟩
  title := title
  body := body

theorem already_escaped_markup_exact :
    parse (buildToastXml (sampleToast "Tom & \"Jerry\"" "&lt;b&gt; ]]>")) =
      some (toastNode "Tom & \"Jerry\"" "&lt;b&gt; ]]>" [("reply", "Reply")]) := by
  have hlabel : "Reply".toList.all isChar = true := by decide
  apply (toast_markup_exact_iff (sampleToast "Tom & \"Jerry\"" "&lt;b&gt; ]]>") (by decide)).mpr
  refine ⟨List.all_eq_true.mp (by decide), List.all_eq_true.mp (by decide), ?_⟩
  intro action haction
  rw [List.mem_singleton.mp haction]
  exact List.all_eq_true.mp hlabel

/-- A control character in a message makes markup that is no document. -/
theorem control_character_breaks_markup :
    let toast := sampleToast "SMS from 10086" (String.ofList ['a', Char.ofNat 1])
    (∀ action ∈ toast.actions, action.1 ∈ actionKeys) ∧
      parse (buildToastXml toast) = none ∧
      parse (buildToastXml toast) ≠
        some (toastNode toast.title toast.body toast.actions) := by
  intro toast
  have hkeys : ∀ action ∈ toast.actions, action.1 ∈ actionKeys := by decide
  have hnone : parse (buildToastXml toast) = none := by
    rw [parse_buildToastXml hkeys]
    exact if_neg (by decide)
  refine ⟨hkeys, hnone, ?_⟩
  rw [hnone]
  exact nofun

/-! ## The buttons of the toasts -/

section Buttons

theorem some_of_decoded {α : Type} {d : Except DisplayError α} {f : α → Option MockToast}
    {toast : MockToast} (h : (d >>= fun a ↦ pure (f a)) = .ok (some toast)) :
    ∃ a, f a = some toast := by
  cases d with
  | error e => cases h
  | ok a => exact ⟨a, Except.ok.inj h⟩

theorem actions_of_translateCallState {t : String → String} {envelopeId deviceId : Uuid}
    {call : Proto.CallState} {toast : MockToast}
    (h : translateCallState t envelopeId deviceId call = some toast) :
    toast.actions = actionListFor t "call" := by
  unfold translateCallState at h
  split at h
  · cases h
  · rw [← Option.some.inj h]

/-- The buttons of a translated event are those of some kind. -/
theorem actions_of_translateViaEvent {display : SerdeError → String} {t : String → String}
    {event : Proto.DisplayEvent} {toast : MockToast}
    (h : translateViaEvent display t event = .ok (some toast)) :
    ∃ kind, toast.actions = actionListFor t kind := by
  unfold translateViaEvent at h
  split at h
  · obtain ⟨n, hn⟩ := some_of_decoded h
    exact ⟨"notification", by rw [← Option.some.inj hn]; rfl⟩
  · obtain ⟨s, hs⟩ := some_of_decoded h
    exact ⟨"sms", by rw [← Option.some.inj hs]; rfl⟩
  · obtain ⟨c, hc⟩ := some_of_decoded h
    exact ⟨"call", by rw [← Option.some.inj hc]; rfl⟩
  · obtain ⟨c, hc⟩ := some_of_decoded h
    exact ⟨"call", actions_of_translateCallState hc⟩
  · exact ⟨"action_result", by rw [← Option.some.inj (Except.ok.inj h)]; rfl⟩
  · exact ⟨"phone_offline", by rw [← Option.some.inj (Except.ok.inj h)]; rfl⟩
  · cases h

theorem keys_of_translateViaEvent {display : SerdeError → String} {t : String → String}
    {event : Proto.DisplayEvent} {toast : MockToast}
    (h : translateViaEvent display t event = .ok (some toast)) :
    ∀ action ∈ toast.actions, action.1 ∈ actionKeys := by
  obtain ⟨kind, hkind⟩ := actions_of_translateViaEvent h
  intro action haction
  rw [hkind] at haction
  exact keys_of_actionListFor (List.mem_map_of_mem haction)

end Buttons

end PhoneBridge.DeskDisplay.WindowsBackend
