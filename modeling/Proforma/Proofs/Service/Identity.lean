import Mathlib.Data.List.Induction
import Mathlib.Data.List.Nodup
import Proforma.Service.Http

/-!
# What becomes of identity headers

The settings tell header names apart exactly, a request tells them apart up to case. So of pairs
whose names differ in case alone only the last is sent, and of a pair that is named like a header
that the request has of its own nothing is. A pair with a name of its own is on every request with
its value as it was given (`identity_on_request`).
-/

namespace Proforma

/-! ## Setting headers one after another -/

/-- The value of the last pair of that name, in any case. The name is in small letters. -/
def lastValue? (identity : IdentityHeaders) (name : String) : Option String :=
  (identity.reverse.find? (Text.lower ·.1 = name)).map (·.2)

section Setting

variable {identity : IdentityHeaders} {headers earlier : List (String × String)}
  {name other value : String}

theorem lastValue?_concat : lastValue? (identity ++ [(other, value)]) name =
    if Text.lower other = name then some value else lastValue? identity name := by
  unfold lastValue?
  rw [List.reverse_concat, List.find?_cons]
  by_cases h : Text.lower other = name
  · simp [h]
  · simp [h]

theorem mem_setHeader_iff {header : String × String} :
    header ∈ setHeader name value headers ↔
      header = (name, value) ∨ header.1 ≠ name ∧ header ∈ headers := by
  unfold setHeader
  rw [List.mem_append, List.mem_filter, List.mem_singleton, decide_eq_true_eq, and_comm, or_comm]

/-- Headers with different names still have different names. -/
theorem nodup_setHeader (h : (headers.map (·.1)).Nodup) :
    ((setHeader name value headers).map (·.1)).Nodup := by
  unfold setHeader
  rw [List.map_append, List.map_singleton]
  refine List.Nodup.append ?_ (List.nodup_singleton name) ?_
  · exact h.sublist (List.filter_sublist.map _)
  · rw [List.disjoint_singleton]
    rintro hmem
    obtain ⟨header, hheader, rfl⟩ := List.mem_map.mp hmem
    simpa using (List.mem_filter.mp hheader).2

/-- The last pair is set after all others. -/
theorem exists_of_checkedHeaders_concat
    (h : checkedHeaders (identity ++ [(name, value)]) = .ok headers) :
    ∃ earlier, checkedHeaders identity = .ok earlier ∧
      headers = setHeader (Text.lower name) value earlier := by
  unfold checkedHeaders at h
  rw [List.foldlM_append] at h
  change (checkedHeaders identity >>= _) = _ at h
  cases hearlier : checkedHeaders identity with
  | error refusal =>
    rw [hearlier] at h
    cases h
  | ok earlier =>
    refine ⟨earlier, rfl, ?_⟩
    rw [hearlier] at h
    simp only [List.foldlM_cons, List.foldlM_nil, bind_pure] at h
    change (if _ then _ else if _ then _ else _) = _ at h
    split at h
    · cases h
    · split at h
      · cases h
      · exact (Except.ok.inj h).symm

/-- **Headers that were accepted** are the last values of the names. -/
theorem mem_checkedHeaders_iff (h : checkedHeaders identity = .ok headers) :
    (name, value) ∈ headers ↔ lastValue? identity name = some value := by
  -- from the end, as a later pair takes the place of an earlier one
  induction identity using List.reverseRecOn generalizing headers with
  | nil =>
    cases h
    simp [lastValue?]
  | append_singleton front pair ih =>
    obtain ⟨other, last⟩ := pair
    obtain ⟨earlier, hearlier, rfl⟩ := exists_of_checkedHeaders_concat h
    rw [mem_setHeader_iff, lastValue?_concat, ih hearlier, Prod.mk.injEq]
    by_cases hname : Text.lower other = name
    · simp [hname, eq_comm]
    · simp [hname, Ne.symm hname]

theorem nodup_checkedHeaders (h : checkedHeaders identity = .ok headers) :
    (headers.map (·.1)).Nodup := by
  induction identity using List.reverseRecOn generalizing headers with
  | nil =>
    cases h
    exact List.nodup_nil
  | append_singleton front pair ih =>
    obtain ⟨earlier, hearlier, rfl⟩ := exists_of_checkedHeaders_concat h
    exact nodup_setHeader (ih hearlier)

end Setting

/-! ## On a request -/

namespace Http

variable {identity own : List (String × String)} {header : String × String}

theorem mem_withIdentity_iff : header ∈ withIdentity identity own ↔
    header ∈ own ∨ header.1 ∉ own.map (·.1) ∧ header ∈ identity := by
  unfold withIdentity
  rw [List.mem_append, List.mem_filter, and_comm]
  simp only [Bool.not_eq_true', List.any_eq_false, decide_eq_true_eq, List.mem_map, not_exists,
    not_and]

theorem nodup_withIdentity (hown : (own.map (·.1)).Nodup) (h : (identity.map (·.1)).Nodup) :
    ((withIdentity identity own).map (·.1)).Nodup := by
  unfold withIdentity
  rw [List.map_append]
  refine hown.append (h.sublist (List.filter_sublist.map _)) ?_
  intro name hmem hother
  obtain ⟨header, hheader, rfl⟩ := List.mem_map.mp hmem
  obtain ⟨other, hin, hsame⟩ := List.mem_map.mp hother
  have hnone := (List.mem_filter.mp hin).2
  rw [Bool.not_eq_true', List.any_eq_false] at hnone
  exact hnone header hheader (decide_eq_true hsame.symm)

theorem nodup_ownHeaders (out : Outgoing) : ((ownHeaders out).map (·.1)).Nodup := by
  unfold ownHeaders
  split
  · exact List.nodup_singleton _
  · exact List.nodup_nil

end Http

open Http

theorem exists_lastValue? {identity : IdentityHeaders} {name value : String}
    (h : (name, value) ∈ identity) :
    ∃ last ∈ identity, Text.lower last.1 = Text.lower name ∧
      lastValue? identity (Text.lower name) = some last.2 := by
  have hfound : (identity.reverse.find? (Text.lower ·.1 = Text.lower name)).isSome = true := by
    rw [List.find?_isSome]
    exact ⟨(name, value), List.mem_reverse.mpr h, decide_eq_true rfl⟩
  obtain ⟨last, hlast⟩ := Option.isSome_iff_exists.mp hfound
  refine ⟨last, ?_, ?_, ?_⟩
  · exact List.mem_reverse.mp (List.mem_of_find?_eq_some hlast)
  · simpa using List.find?_some hlast
  · unfold lastValue?
    rw [hlast, Option.map_some]

/-- **Identity headers on a request.** Once the headers of the settings were accepted, whatever the
request, it has one header for each name; what it has under a name is its own value, if it has one,
and else the last of the values that the settings give for the name in any case. So some value is
sent for every name in the settings, and a pair itself is sent unless the request has a header of
that name or another pair has the name, up to case, and another value. -/
theorem identity_on_request (identity : IdentityHeaders) (headers : List (String × String))
    (h : checkedHeaders identity = .ok headers) (baseUrl : String) (out : Outgoing)
    (request : HttpRequest) (hrequest : prepare? baseUrl headers out = some request) :
    (request.headers.map (·.1)).Nodup ∧
    (∀ name value, (name, value) ∈ request.headers ↔
      (name, value) ∈ ownHeaders out ∨
        name ∉ (ownHeaders out).map (·.1) ∧ lastValue? identity name = some value) ∧
    ∀ name value, (name, value) ∈ identity →
      Text.lower name ∈ request.headers.map (·.1) ∧
      (Text.lower name ∉ (ownHeaders out).map (·.1) →
        (∀ other ∈ identity, Text.lower other.1 = Text.lower name → other.2 = value) →
        (Text.lower name, value) ∈ request.headers) := by
  obtain ⟨address, -, rfl⟩ := Option.map_eq_some_iff.mp hrequest
  have hsent (name value : String) : (name, value) ∈ withIdentity headers (ownHeaders out) ↔
      (name, value) ∈ ownHeaders out ∨
        name ∉ (ownHeaders out).map (·.1) ∧ lastValue? identity name = some value := by
    rw [mem_withIdentity_iff, mem_checkedHeaders_iff h]
  refine ⟨nodup_withIdentity (nodup_ownHeaders out) (nodup_checkedHeaders h), hsent,
    fun name value hpair => ?_⟩
  obtain ⟨last, hmem, hsame, hlast⟩ := exists_lastValue? hpair
  refine ⟨?_, fun hfree hall => ?_⟩
  · by_cases hown : Text.lower name ∈ (ownHeaders out).map (·.1)
    · obtain ⟨header, hheader, hname⟩ := List.mem_map.mp hown
      exact List.mem_map.mpr ⟨header, mem_withIdentity_iff.mpr (.inl hheader), hname⟩
    · exact List.mem_map.mpr ⟨(Text.lower name, last.2), (hsent _ _).mpr (.inr ⟨hown, hlast⟩), rfl⟩
  · rw [hsent, ← hall last hmem hsame]
    exact .inr ⟨hfree, hlast⟩

/-! ## Pairs that are lost -/

/-- A request for the list of scenarios. -/
def listing : Outgoing :=
  { method := .get, path := scenariosPath, query := [], body := none }

/-- A request with a body. -/
def posting : Outgoing :=
  { method := .post, path := studyPath, query := [], body := some (.object []) }

/-- Beside a body a content type is not sent, and another header is. -/
theorem identity_on_request_of_posting :
    ∃ request, checkedHeaders [("Content-Type", "text/plain"), ("X-Role", "developer")] =
        .ok [("content-type", "text/plain"), ("x-role", "developer")] ∧
      prepare? Config.default.baseUrl
        [("content-type", "text/plain"), ("x-role", "developer")] posting = some request ∧
      ("content-type", "text/plain") ∉ request.headers ∧
      ("x-role", "developer") ∈ request.headers := by
  have hchecked : checkedHeaders [("Content-Type", "text/plain"), ("X-Role", "developer")] =
      .ok [("content-type", "text/plain"), ("x-role", "developer")] := by
    decide +kernel
  have hprepared : (prepare? Config.default.baseUrl
      [("content-type", "text/plain"), ("x-role", "developer")] posting).isSome = true := by
    decide +kernel
  obtain ⟨request, hrequest⟩ := Option.isSome_iff_exists.mp hprepared
  obtain ⟨-, hsent, hpairs⟩ := identity_on_request _ _ hchecked _ _ _ hrequest
  refine ⟨request, hchecked, hrequest, ?_, ?_⟩
  · rw [hsent]
    decide +kernel
  · exact (hpairs "X-Role" "developer" (by simp)).2 (by decide +kernel)
      (by decide +kernel)

/-- Of two values for one name in two spellings the first in code point order is on no request. -/
theorem identity_lost_of_two_spellings :
    ∃ headers request, checkedHeaders [("X-Role", "developer"), ("x-role", "admin")] =
        .ok headers ∧
      prepare? Config.default.baseUrl headers listing = some request ∧
      ∀ header ∈ request.headers, Text.sameIgnoringCase header.1 "X-Role" = true →
        Text.trim header.2 ≠ Text.trim "developer" := by
  have hchecked : checkedHeaders [("X-Role", "developer"), ("x-role", "admin")] =
      .ok [("x-role", "admin")] := by
    decide +kernel
  have hprepared : (prepare? Config.default.baseUrl [("x-role", "admin")] listing).map (·.headers) =
      some [("x-role", "admin")] := by
    decide +kernel
  obtain ⟨request, hrequest, hset⟩ := Option.map_eq_some_iff.mp hprepared
  refine ⟨_, request, hchecked, hrequest, ?_⟩
  rw [hset]
  decide +kernel

end Proforma
