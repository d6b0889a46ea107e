import Proforma.Proofs.NameMap.Order
import Proforma.Service.Header

/-!
# The last setting counts

A client is set up by calls in any order, each of which sets one kind of setting, or two. What a
draft holds of a kind is what the last call that sets it has set, and the default if none does
(`value_ofSettings`); that is all that a draft is (`Draft.ext_of_values`). So calls about different
settings can change places, and a call whose settings are all made again later might as well be
left out. The headers are checked when the client is built, in the order of their names and as they
were set last (`checkedHeaders_eq_error_iff`); whatever was in their place before is not looked at.
-/

namespace Proforma

/-! ## Kinds of settings -/

/-- What a setting is about. Every header name, told apart exactly, is a kind of its own. -/
inductive SettingKind where
  | baseUrl
  | timeout
  | header (name : String)
  | fallback
  | endpoints
  | transport

/-- What a setting of a kind can be: for a header its value, if there is one, and for the transport
whether it is the caller's own. -/
abbrev SettingKind.Value : SettingKind → Type
  | .baseUrl => String
  | .timeout => Nat
  | .header _ => Option String
  | .fallback => FallbackPolicy
  | .endpoints => Endpoints
  | .transport => Bool

namespace ClientSetting

/-- What a call sets a kind of setting to, if it sets it. -/
def value? : ClientSetting → (kind : SettingKind) → Option kind.Value
  | .baseUrl url, .baseUrl => some url
  | .timeout limit, .timeout => some limit
  | .identityHeader name value, .header other => if name = other then some (some value) else none
  | .fallback policy, .fallback => some policy
  | .endpoints offered, .endpoints => some offered
  | .capabilities policy _, .fallback => some policy
  | .capabilities _ offered, .endpoints => some offered
  | .customTransport, .transport => some true
  | _, _ => none

/-- Calls about different settings. -/
def Independent (a b : ClientSetting) : Prop :=
  ∀ kind, a.value? kind = none ∨ b.value? kind = none

end ClientSetting

/-- What the last call that sets a kind has set it to. -/
def lastSet? (settings : List ClientSetting) (kind : SettingKind) : Option kind.Value :=
  settings.reverse.findSome? (·.value? kind)

section LastSet

variable {kind : SettingKind} {settings before after : List ClientSetting}
  {a b setting : ClientSetting}

theorem lastSet?_append : lastSet? (before ++ after) kind =
    (lastSet? after kind).or (lastSet? before kind) := by
  unfold lastSet?
  rw [List.reverse_append, List.findSome?_append]

theorem lastSet?_cons : lastSet? (setting :: after) kind =
    (lastSet? after kind).or (setting.value? kind) := by
  unfold lastSet?
  rw [List.reverse_cons, List.findSome?_append]
  simp

/-- Neighbours about different settings can change places. -/
theorem lastSet?_swap (h : a.Independent b) :
    lastSet? (before ++ b :: a :: after) kind = lastSet? (before ++ a :: b :: after) kind := by
  simp only [lastSet?_append, lastSet?_cons]
  rcases h kind with hnone | hnone <;> simp [hnone]

/-- A call is not seen behind calls that set all that it sets. -/
theorem lastSet?_overwritten (h : setting.value? kind ≠ none → lastSet? after kind ≠ none) :
    lastSet? (before ++ setting :: after) kind = lastSet? (before ++ after) kind := by
  simp only [lastSet?_append, lastSet?_cons]
  cases hafter : lastSet? after kind with
  | some value => rfl
  | none =>
    have hnone : setting.value? kind = none := by
      by_contra hsets
      exact h hsets hafter
    rw [hnone]
    rfl

theorem lastSet?_transport :
    lastSet? settings .transport = some true ↔ .customTransport ∈ settings := by
  induction settings with
  | nil => simp [lastSet?]
  | cons setting rest ih =>
    rw [lastSet?_cons, List.mem_cons, ← ih]
    cases hrest : lastSet? rest .transport with
    | none => cases setting <;> simp [ClientSetting.value?]
    | some own =>
      -- the only transport that is set is one of the caller's own
      have htrue : own = true := by
        obtain ⟨given, -, hgiven⟩ := List.exists_of_findSome?_eq_some hrest
        cases given <;> simp_all [ClientSetting.value?]
      simp [htrue]

end LastSet

/-! ## What a draft holds -/

namespace Draft

variable {d e : Draft}

/-- What a draft holds of a kind of setting. -/
def value (d : Draft) : (kind : SettingKind) → kind.Value
  | .baseUrl => d.config.baseUrl
  | .timeout => d.config.timeout
  | .header name => d.config.identity.get? name
  | .fallback => d.config.fallback
  | .endpoints => d.config.endpoints
  | .transport => d.hasCustomTransport

/-- **A call** sets what it sets and leaves the rest. -/
theorem value_apply (d : Draft) (setting : ClientSetting) (kind : SettingKind) :
    (d.apply setting).value kind = (setting.value? kind).getD (d.value kind) := by
  cases setting with
  | identityHeader name value =>
    cases kind with
    | header other =>
      show (d.config.identity.insert name value).get? other = _
      rw [NameMap.get?_insert]
      simp only [ClientSetting.value?]
      split <;> rfl
    | baseUrl | timeout | fallback | endpoints | transport => rfl
  | baseUrl | timeout | fallback | endpoints | capabilities | customTransport => cases kind <;> rfl

/-- **Calls in order** leave what the last of a kind has set. -/
theorem value_foldl (d : Draft) (settings : List ClientSetting) (kind : SettingKind) :
    (settings.foldl apply d).value kind = (lastSet? settings kind).getD (d.value kind) := by
  induction settings generalizing d with
  | nil => rfl
  | cons setting rest ih =>
    rw [List.foldl_cons, ih, value_apply, lastSet?_cons]
    cases lastSet? rest kind <;> rfl

theorem value_ofSettings (settings : List ClientSetting) (kind : SettingKind) :
    (ofSettings settings).value kind = (lastSet? settings kind).getD (empty.value kind) :=
  value_foldl empty settings kind

theorem sorted_apply (h : d.config.identity.Sorted) (setting : ClientSetting) :
    (d.apply setting).config.identity.Sorted := by
  cases setting with
  | identityHeader name value => exact h.insert name value
  | baseUrl | timeout | fallback | endpoints | capabilities | customTransport => exact h

theorem sorted_foldl (h : d.config.identity.Sorted) (settings : List ClientSetting) :
    (settings.foldl apply d).config.identity.Sorted := by
  induction settings generalizing d with
  | nil => exact h
  | cons setting rest ih => exact ih (sorted_apply h setting)

/-- The headers of a draft are in the order of their names. -/
theorem sorted_ofSettings (settings : List ClientSetting) :
    (ofSettings settings).config.identity.Sorted :=
  sorted_foldl NameMap.sorted_nil settings

/-- **A draft is what it holds** of each kind. -/
theorem ext_of_values (hd : d.config.identity.Sorted) (he : e.config.identity.Sorted)
    (h : ∀ kind, d.value kind = e.value kind) : d = e := by
  obtain ⟨⟨baseUrl, timeout, identity, fallback, endpoints⟩, own⟩ := d
  obtain ⟨⟨baseUrl', timeout', identity', fallback', endpoints'⟩, own'⟩ := e
  obtain rfl : baseUrl = baseUrl' := h .baseUrl
  obtain rfl : timeout = timeout' := h .timeout
  obtain rfl : identity = identity' := hd.ext he fun name => h (.header name)
  obtain rfl : fallback = fallback' := h .fallback
  obtain rfl : endpoints = endpoints' := h .endpoints
  obtain rfl : own = own' := h .transport
  rfl

theorem ofSettings_congr {settings others : List ClientSetting}
    (h : ∀ kind, lastSet? settings kind = lastSet? others kind) :
    ofSettings settings = ofSettings others :=
  ext_of_values (sorted_ofSettings settings) (sorted_ofSettings others) fun kind => by
    rw [value_ofSettings, value_ofSettings, h]

/-- The header of a name is the last one set. -/
theorem get?_ofSettings {settings : List ClientSetting} {name value : String} :
    (ofSettings settings).config.identity.get? name = some value ↔
      lastSet? settings (.header name) = some (some value) := by
  have hvalue := value_ofSettings settings (.header name)
  change (ofSettings settings).config.identity.get? name =
    (lastSet? settings (.header name)).getD none at hvalue
  rw [hvalue]
  cases lastSet? settings (.header name) <;> simp

theorem hasCustomTransport_ofSettings {settings : List ClientSetting} :
    (ofSettings settings).hasCustomTransport = true ↔ .customTransport ∈ settings := by
  have hvalue := value_ofSettings settings .transport
  change (ofSettings settings).hasCustomTransport =
    (lastSet? settings .transport).getD false at hvalue
  rw [hvalue, ← lastSet?_transport]
  cases lastSet? settings .transport <;> simp

end Draft

/-! ## Checking the headers -/

/-- What is wrong with a header. Only where the name is right is the value looked at. -/
inductive HeaderFault (name value : String) : Refusal → Prop where
  | name : isHeaderName name = false → HeaderFault name value (.headerName name)
  | value : isHeaderName name = true → isHeaderValue value = false →
      HeaderFault name value (.headerValue (Text.lower name))

/-- Nothing is wrong with a header. -/
def IsHeader (name value : String) : Prop :=
  isHeaderName name = true ∧ isHeaderValue value = true

section Checking

variable {name value : String} {refusal other : Refusal} {identity : IdentityHeaders}

theorem HeaderFault.unique (h : HeaderFault name value refusal)
    (hother : HeaderFault name value other) : refusal = other := by
  cases h with
  | name hname =>
    cases hother with
    | name => rfl
    | value hright => cases hname.symm.trans hright
  | value hright =>
    cases hother with
    | name hname => cases hname.symm.trans hright
    | value => rfl

theorem HeaderFault.not_isHeader (h : HeaderFault name value refusal) : ¬ IsHeader name value := by
  rintro ⟨hname, hvalue⟩
  cases h with
  | name hwrong => cases hwrong.symm.trans hname
  | value _ hwrong => cases hwrong.symm.trans hvalue

theorem isHeader_or_fault (name value : String) :
    IsHeader name value ∨ ∃ refusal, HeaderFault name value refusal := by
  cases hname : isHeaderName name with
  | false => exact .inr ⟨_, .name hname⟩
  | true =>
    cases hvalue : isHeaderValue value with
    | false => exact .inr ⟨_, .value hname hvalue⟩
    | true => exact .inl ⟨hname, hvalue⟩

/-- One header is checked and added to those before it. -/
def addChecked (headers : List (String × String)) (header : String × String) :
    Except Refusal (List (String × String)) :=
  if !isHeaderName header.1 then .error (.headerName header.1)
  else if !isHeaderValue header.2 then .error (.headerValue (Text.lower header.1))
  else .ok (setHeader (Text.lower header.1) header.2 headers)

theorem addChecked_of_fault (h : HeaderFault name value refusal)
    (headers : List (String × String)) : addChecked headers (name, value) = .error refusal := by
  cases h with
  | name hname => simp [addChecked, hname]
  | value hname hvalue => simp [addChecked, hname, hvalue]

theorem addChecked_of_isHeader (h : IsHeader name value) (headers : List (String × String)) :
    addChecked headers (name, value) = .ok (setHeader (Text.lower name) value headers) := by
  simp [addChecked, h.1, h.2]

/-- **Checking fails with the fault of the least name** that has one, whatever was added before. -/
theorem foldlM_addChecked_eq_error_iff (h : identity.Sorted) (headers : List (String × String)) :
    identity.foldlM addChecked headers = .error refusal ↔
      ∃ name value, (name, value) ∈ identity ∧ HeaderFault name value refusal ∧
        ∀ earlier v, (earlier, v) ∈ identity → earlier < name → IsHeader earlier v := by
  induction identity generalizing headers with
  | nil =>
    constructor
    · intro hnone
      cases hnone
    · rintro ⟨name, value, hmem, -⟩
      cases hmem
  | cons first rest ih =>
    obtain ⟨n, a⟩ := first
    obtain ⟨hleast, hrest⟩ := List.pairwise_cons.mp h
    rcases isHeader_or_fault n a with hright | ⟨fault, hfault⟩
    · -- the first header is passed over, and it is in front of any that has a fault
      rw [List.foldlM_cons, addChecked_of_isHeader hright]
      refine (ih hrest _).trans ⟨?_, ?_⟩
      · rintro ⟨name, value, hmem, hwrong, hfirst⟩
        refine ⟨name, value, List.mem_cons_of_mem _ hmem, hwrong, fun earlier v hv hless => ?_⟩
        rcases List.mem_cons.mp hv with heq | hlater
        · cases heq
          exact hright
        · exact hfirst earlier v hlater hless
      · rintro ⟨name, value, hmem, hwrong, hfirst⟩
        rcases List.mem_cons.mp hmem with heq | hlater
        · cases heq
          exact absurd hright hwrong.not_isHeader
        · exact ⟨name, value, hlater, hwrong, fun earlier v hv =>
            hfirst earlier v (List.mem_cons_of_mem _ hv)⟩
    · rw [List.foldlM_cons, addChecked_of_fault hfault]
      constructor
      · intro herror
        cases herror
        refine ⟨n, a, List.mem_cons_self, hfault, fun earlier v hv hless => ?_⟩
        rcases List.mem_cons.mp hv with heq | hlater
        · cases heq
          exact absurd hless (lt_irrefl _)
        · exact absurd hless (lt_asymm (hleast _ hlater))
      · rintro ⟨name, value, hmem, hwrong, hfirst⟩
        rcases List.mem_cons.mp hmem with heq | hlater
        · cases heq
          rw [hwrong.unique hfault]
          rfl
        · exact absurd (hfirst n a List.mem_cons_self (hleast _ hlater)) hfault.not_isHeader

theorem checkedHeaders_eq_error_iff (h : identity.Sorted) :
    checkedHeaders identity = .error refusal ↔
      ∃ name value, identity.get? name = some value ∧ HeaderFault name value refusal ∧
        ∀ earlier v, identity.get? earlier = some v → earlier < name → IsHeader earlier v := by
  simp only [← h.mem_iff]
  exact foldlM_addChecked_eq_error_iff h []

/-- Checking succeeds if every header is right. -/
theorem exists_checkedHeaders_iff (h : identity.Sorted) :
    (∃ headers, checkedHeaders identity = .ok headers) ↔
      ∀ name value, identity.get? name = some value → IsHeader name value := by
  simp only [← h.mem_iff]
  show (∃ headers, identity.foldlM addChecked [] = .ok headers) ↔ _
  generalize ([] : List (String × String)) = headers
  clear h
  induction identity generalizing headers with
  | nil => exact ⟨nofun, fun _ => ⟨headers, rfl⟩⟩
  | cons first rest ih =>
    obtain ⟨n, a⟩ := first
    rw [List.foldlM_cons]
    rcases isHeader_or_fault n a with hright | ⟨fault, hfault⟩
    · rw [addChecked_of_isHeader hright]
      refine (ih _).trans ⟨fun hall name value hmem => ?_, fun hall name value hmem =>
        hall name value (List.mem_cons_of_mem _ hmem)⟩
      rcases List.mem_cons.mp hmem with heq | hlater
      · cases heq
        exact hright
      · exact hall name value hlater
    · rw [addChecked_of_fault hfault]
      constructor
      · rintro ⟨_, hok⟩
        cases hok
      · intro hall
        exact absurd (hall n a List.mem_cons_self) hfault.not_isHeader

end Checking

namespace Draft

variable {d : Draft} {config : Config} {refusal : Refusal}

theorem build_eq_ok_iff (h : d.config.identity.Sorted) :
    d.build = .ok config ↔ config = d.config ∧ (d.hasCustomTransport = true ∨
      ∀ name value, d.config.identity.get? name = some value → IsHeader name value) := by
  rw [← exists_checkedHeaders_iff h]
  unfold build
  by_cases hown : d.hasCustomTransport = true
  · rw [if_pos hown]
    simp [hown, eq_comm]
  · rw [if_neg hown]
    cases checkedHeaders d.config.identity <;> simp [hown, Except.map, eq_comm]

theorem build_eq_error_iff (h : d.config.identity.Sorted) :
    d.build = .error refusal ↔ ¬ d.hasCustomTransport = true ∧
      ∃ name value, d.config.identity.get? name = some value ∧ HeaderFault name value refusal ∧
        ∀ earlier v, d.config.identity.get? earlier = some v → earlier < name →
          IsHeader earlier v := by
  rw [← checkedHeaders_eq_error_iff h]
  unfold build
  by_cases hown : d.hasCustomTransport = true
  · rw [if_pos hown]
    simp [hown]
  · rw [if_neg hown]
    cases checkedHeaders d.config.identity <;> simp [hown, Except.map]

end Draft

/-- **The last setting counts.** Whatever calls are made in whatever order, a draft holds of each
kind of setting what the last call that sets it has set, and the default if none does; its headers
are in the order of their names. Neighbouring calls about different settings can change places, and
a call whose settings are all made again later can be left out. The client that is built has these
settings, and it is built exactly if a transport of the caller's own was given or all headers, as
they were set last, are right; otherwise the failure is that of the least name with a fault, in its
name or else in its value. -/
theorem last_setting_counts (settings : List ClientSetting) :
    let draft := Draft.ofSettings settings
    (∀ kind, draft.value kind = (lastSet? settings kind).getD (Draft.empty.value kind)) ∧
      draft.config.identity.Sorted ∧
      (∀ before a b after, settings = before ++ a :: b :: after → a.Independent b →
        Draft.ofSettings (before ++ b :: a :: after) = draft) ∧
      (∀ before setting after, settings = before ++ setting :: after →
        (∀ kind, setting.value? kind ≠ none → lastSet? after kind ≠ none) →
        Draft.ofSettings (before ++ after) = draft) ∧
      (∀ config, draft.build = .ok config ↔ config = draft.config ∧
        (.customTransport ∈ settings ∨ ∀ name value,
          lastSet? settings (.header name) = some (some value) → IsHeader name value)) ∧
      ∀ refusal, draft.build = .error refusal ↔ .customTransport ∉ settings ∧
        ∃ name value, lastSet? settings (.header name) = some (some value) ∧
          HeaderFault name value refusal ∧
          ∀ earlier v, lastSet? settings (.header earlier) = some (some v) → earlier < name →
            IsHeader earlier v := by
  intro draft
  have hsorted : draft.config.identity.Sorted := Draft.sorted_ofSettings settings
  refine ⟨Draft.value_ofSettings settings, hsorted, ?_, ?_, fun config => ?_, fun refusal => ?_⟩
  · rintro before a b after rfl hindependent
    exact Draft.ofSettings_congr fun kind => lastSet?_swap hindependent
  · rintro before setting after rfl hagain
    exact Draft.ofSettings_congr fun kind => (lastSet?_overwritten (hagain kind)).symm
  · rw [Draft.build_eq_ok_iff hsorted]
    simp only [draft, Draft.get?_ofSettings, Draft.hasCustomTransport_ofSettings]
  · rw [Draft.build_eq_error_iff hsorted]
    simp only [draft, Draft.get?_ofSettings, Draft.hasCustomTransport_ofSettings]

/-- Two names are wrong and a third had a wrong value before its last one: the failure is that of
the least wrong name, though it was set last. With a transport of the caller's own there is none. -/
theorem last_setting_counts_of_spaced :
    let faulty : List ClientSetting :=
      [.identityHeader "c d" "1", .identityHeader "a" "\n", .fallback .disabled,
        .identityHeader "a" "2", .capabilities .default ⟨false, true, true⟩,
        .identityHeader "b c" "\n", .endpoints .all]
    (Draft.ofSettings faulty).build = .error (.headerName "b c") ∧
      (Draft.ofSettings (.customTransport :: faulty)).build =
        .ok { Config.default with identity := [("a", "2"), ("b c", "\n"), ("c d", "1")] } := by
  intro faulty
  obtain ⟨-, -, -, -, -, hfails⟩ := last_setting_counts faulty
  obtain ⟨-, -, -, -, hbuilt, -⟩ := last_setting_counts (.customTransport :: faulty)
  refine ⟨(hfails _).mpr ⟨by decide, "b c", "\n", by decide, .name (by decide), ?_⟩,
    (hbuilt _).mpr ⟨by decide, .inl (by decide)⟩⟩
  intro earlier v hset hless
  have hmem : (earlier, v) ∈ (Draft.ofSettings faulty).config.identity :=
    (Draft.sorted_ofSettings faulty).mem_iff.mpr (Draft.get?_ofSettings.mpr hset)
  have hheaders : (Draft.ofSettings faulty).config.identity =
      [("a", "2"), ("b c", "\n"), ("c d", "1")] := by decide
  rw [hheaders] at hmem
  simp only [List.mem_cons, Prod.mk.injEq, List.not_mem_nil, or_false] at hmem
  rcases hmem with ⟨rfl, rfl⟩ | ⟨rfl, rfl⟩ | ⟨rfl, rfl⟩
  · exact ⟨by decide, by decide +kernel⟩
  · exact absurd hless (lt_irrefl _)
  · exact absurd hless (by decide)

end Proforma
