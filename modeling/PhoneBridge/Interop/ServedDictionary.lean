import PhoneBridge.DeskDisplay.DisplayI18n
import PhoneBridge.MessageCenter.I18n

/-!
# The dictionary that the center serves and the display loads

The center sends its dictionary in a field that the display does not read, and the field that the
display reads may be missing. So the display always has its built-in dictionary.
-/

namespace PhoneBridge.Interop

open Library MessageCenter DeskDisplay

/-- Every served key has its served value, and every built-in key that is not served its built-in
one. -/
structure LoadsServed (dict : Dict) (loaded : DisplayI18n) : Prop where
  served : ∀ key value, (key, value) ∈ dict.entries → loaded.dict.get key = some value
  builtin : ∀ key value, (key, value) ∈ builtinEnDict → dict.get key = none →
    loaded.dict.get key = some value

/-- Only the default locale of a response is read. -/
theorem parse_toValue (r : MessageCenter.I18nResponse) :
    I18nResponse.parse r.toValue =
      .ok { defaultLocale := some r.defaultLocale, dictionary := .empty } := rfl

theorem lookup_builtinEnDict {key value : String} (h : (key, value) ∈ builtinEnDict) :
    builtinEnDict.lookup key = some value := by
  have hall : ∀ entry ∈ builtinEnDict, builtinEnDict.lookup entry.1 = some entry.2 := by decide
  exact hall (key, value) h

/-- What the display loads from a response is its built-in dictionary. -/
theorem get_load (url : String) (answer : String → Except String (Option Json))
    (r : MessageCenter.I18nResponse) (hanswer : answer url = .ok (some r.toValue)) (key : String) :
    (DisplayI18n.load (.ok url) answer).dict.get key = builtinEnDict.lookup key := by
  have hload : DisplayI18n.load (.ok url) answer =
      { dict := KeyMap.empty.orInsertAll builtinEnDict } := by
    simp only [DisplayI18n.load, hanswer, parse_toValue]
  rw [hload, KeyMap.get_orInsertAll, KeyMap.get_empty, Option.none_or]

/-- The display loads what the center serves if and only if all of it is built in. -/
theorem loads_served_iff (zh en : Dict) (env : String → Option String) (locale : Option String)
    (url : String) :
    LoadsServed (getI18n zh en env locale).strings
        (DisplayI18n.load (.ok url) fun _ ↦ .ok (some (getI18n zh en env locale).toValue)) ↔
      ∀ key value, (key, value) ∈ (getI18n zh en env locale).strings.entries →
        (key, value) ∈ builtinEnDict := by
  have hget := get_load url (fun _ ↦ .ok (some (getI18n zh en env locale).toValue))
    (getI18n zh en env locale) rfl
  constructor
  · intro h key value hserved
    have hloaded := h.served key value hserved
    rw [hget] at hloaded
    obtain ⟨front, back, hsplit, -⟩ := List.lookup_eq_some_iff.mp hloaded
    rw [hsplit]
    exact List.mem_append_right front (List.mem_cons_self ..)
  · intro h
    constructor
    · intro key value hserved
      rw [hget]
      exact lookup_builtinEnDict (h key value hserved)
    · intro key value hbuiltin _
      rw [hget]
      exact lookup_builtinEnDict hbuiltin

/-- A dictionary with one text of the console. -/
def sampleDict : Dict where
  entries := [("nav.dashboard", "仪表盘")]
  sorted := List.pairwise_singleton ..

/-- The display does not load it. -/
theorem served_text_is_not_loaded : ¬ ∀ (zh en : Dict) (env : String → Option String)
    (locale : Option String) (url : String),
    LoadsServed (getI18n zh en env locale).strings
      (DisplayI18n.load (.ok url) fun _ ↦ .ok (some (getI18n zh en env locale).toValue)) := by
  intro h
  have hserved := (h sampleDict sampleDict (fun _ ↦ none) (some "zh")
    "http://127.0.0.1:8443/api/v1/i18n?locale=zh").served "nav.dashboard" "仪表盘"
    (List.mem_singleton.mpr rfl)
  rw [get_load _ _ _ rfl] at hserved
  exact absurd hserved (by decide)

end PhoneBridge.Interop
