import Proforma.FileTree

/-!
# What writing a file changes

A tree is seen through what stands at each path (`found?`), a file with its content or a directory.
Each step of writing has one law about that view: a change in one directory shows at one name only
(`found?_modify_of_put`), going down a path adds directories on the way and nothing else
(`leads_descend`), and a temporary file shows nowhere once it is renamed or taken away
(`found?_of_rename?`, `found?_discarded`). `writes_write` puts the steps together.
-/

namespace Proforma

namespace FileTree

/-- What can stand at a path. -/
inductive Entry where
  | file (content : List UInt8)
  | directory
  deriving DecidableEq

/-- What a tree is at its root. -/
def entry : FileTree → Entry
  | .file content => .file content
  | .directory _ => .directory

/-- What stands at a path. -/
def found? (t : FileTree) (p : Path) : Option Entry :=
  (t.node? p).map entry

theorem found?_eq_directory_iff (t : FileTree) (p : Path) :
    t.found? p = some .directory ↔ ∃ entries, t.entries? p = some entries := by
  unfold found? entries?
  cases t.node? p with
  | none => simp
  | some node => cases node <;> simp [entry]

/-! ## Places below a place -/

theorem node?_append (t : FileTree) (p q : Path) :
    t.node? (p ++ q) = (t.node? p).bind (·.node? q) := by
  induction p generalizing t with
  | nil => cases t <;> rfl
  | cons name rest ih =>
    cases t with
    | file content => rfl
    | directory entries =>
      rw [List.cons_append, node?, node?]
      cases NameMap.get? entries name with
      | none => rfl
      | some child => exact ih child

theorem node?_eq_of_entries? {t : FileTree} {p : Path} {entries : NameMap FileTree}
    (h : t.entries? p = some entries) : t.node? p = some (.directory entries) := by
  unfold entries? at h
  split at h
  · rename_i own hnode
    rw [hnode, ← Option.some.inj h]
  · cases h

/-- Below a directory stands what it has under the names. -/
theorem found?_append_cons {t : FileTree} {p : Path} {entries : NameMap FileTree}
    (h : t.entries? p = some entries) (name : String) (rest : Path) :
    t.found? (p ++ name :: rest) = (NameMap.get? entries name).bind (·.found? rest) := by
  unfold found?
  rw [node?_append, node?_eq_of_entries? h, Option.bind_some, node?]
  cases NameMap.get? entries name <;> rfl

/-- Only below a directory stands something. -/
theorem found?_eq_directory_of_below {t : FileTree} {p : Path} {name : String} {rest : Path}
    {e : Entry} (h : t.found? (p ++ name :: rest) = some e) : t.found? p = some .directory := by
  unfold found? at h ⊢
  rw [node?_append] at h
  cases hp : t.node? p with
  | none => rw [hp] at h; cases h
  | some node =>
    cases node with
    | file content => rw [hp] at h; cases h
    | directory entries => rfl

/-- What a directory stands in is a directory. -/
theorem found?_dropLast {t : FileTree} {p : Path} (h : t.found? p = some .directory) :
    t.found? p.dropLast = some .directory := by
  rcases List.eq_nil_or_concat p with rfl | ⟨above, name, rfl⟩
  · exact h
  · rw [List.concat_eq_append, List.dropLast_concat]
    rw [List.concat_eq_append] at h
    exact found?_eq_directory_of_below h

/-! ## A change in one directory -/

section Modify

variable {t : FileTree} {p q : Path} {f : NameMap FileTree → NameMap FileTree}
  {entries : NameMap FileTree}

/-- Outside the directory that was changed everything stands as before, and so does that directory
itself. -/
theorem found?_modify_of_not_below (t : FileTree) (p q : Path)
    (f : NameMap FileTree → NameMap FileTree) (h : ∀ name rest, q ≠ p ++ name :: rest) :
    (t.modify p f).found? q = t.found? q := by
  induction p generalizing t q with
  | nil =>
    cases q with
    | nil => cases t <;> rfl
    | cons name rest => exact absurd rfl (h name rest)
  | cons first above ih =>
    cases t with
    | file content => rfl
    | directory own =>
      rw [modify]
      cases hchild : NameMap.get? own first with
      | none => rfl
      | some child =>
        cases q with
        | nil => rfl
        | cons other below =>
          simp only [found?, node?, NameMap.get?_insert]
          by_cases hname : first = other
          · subst hname
            rw [if_pos rfl, hchild]
            exact ih child below fun name rest heq => h name rest (by rw [heq]; rfl)
          · rw [if_neg hname]

theorem found?_modify_append_cons (h : t.entries? p = some entries) (name : String) (rest : Path) :
    (t.modify p f).found? (p ++ name :: rest) =
      (NameMap.get? (f entries) name).bind (·.found? rest) := by
  unfold found?
  rw [node?_modify_append t p _ f h, node?]
  cases NameMap.get? (f entries) name <;> rfl

/-- A change after which the directory holds the same under every name. -/
theorem found?_modify_of_same (h : t.entries? p = some entries)
    (hsame : ∀ name, NameMap.get? (f entries) name = NameMap.get? entries name) (q : Path) :
    (t.modify p f).found? q = t.found? q := by
  by_cases hbelow : ∃ name rest, q = p ++ name :: rest
  · obtain ⟨name, rest, rfl⟩ := hbelow
    rw [found?_modify_append_cons h, found?_append_cons h, hsame]
  · exact found?_modify_of_not_below t p q f fun name rest heq => hbelow ⟨name, rest, heq⟩

/-- **Putting something with nothing below it under a name** of a directory, where no directory was,
shows at that place only. -/
theorem found?_modify_of_put {name : String} {child : FileTree} (h : t.entries? p = some entries)
    (hput : NameMap.get? (f entries) name = some child)
    (hsame : ∀ other, other ≠ name → NameMap.get? (f entries) other = NameMap.get? entries other)
    (hleaf : ∀ next rest, child.found? (next :: rest) = none)
    (hfree : t.found? (p ++ [name]) ≠ some .directory) (q : Path) :
    (t.modify p f).found? q = if q = p ++ [name] then some child.entry else t.found? q := by
  by_cases hbelow : ∃ other rest, q = p ++ other :: rest
  · obtain ⟨other, rest, rfl⟩ := hbelow
    rw [found?_modify_append_cons h]
    by_cases hother : other = name
    · subst hother
      rw [hput, Option.bind_some]
      cases rest with
      | nil => rw [if_pos rfl]; cases child <;> rfl
      | cons next rest =>
        rw [if_neg (by simp), hleaf]
        -- nothing stood below the place either
        cases hold : t.found? (p ++ other :: next :: rest) with
        | none => rfl
        | some e =>
          have hsplit : p ++ other :: next :: rest = (p ++ [other]) ++ next :: rest := by simp
          rw [hsplit] at hold
          exact absurd (found?_eq_directory_of_below hold) hfree
    · rw [hsame other hother, found?_append_cons h, if_neg (by simp [hother])]
  · rw [found?_modify_of_not_below t p q f fun other rest heq => hbelow ⟨other, rest, heq⟩,
      if_neg fun heq => hbelow ⟨name, [], heq⟩]

/-- Two changes in one directory are one change. -/
theorem modify_modify (t : FileTree) (p : Path) (f g : NameMap FileTree → NameMap FileTree) :
    (t.modify p f).modify p g = t.modify p fun entries => g (f entries) := by
  induction p generalizing t with
  | nil => cases t <;> rfl
  | cons name rest ih =>
    cases t with
    | file content => rfl
    | directory own =>
      rw [modify, modify]
      cases hchild : NameMap.get? own name with
      | none => simp only [modify, hchild]
      | some child =>
        simp only [modify, NameMap.get?_insert, if_true, NameMap.insert_insert, ih child]

end Modify

/-! ## Going down a path -/

/-- Where names lead from a place. -/
def walk (here : Path) (names : List String) : Path :=
  names.foldl (fun here name => if name = ".." then here.dropLast else here ++ [name]) here

/-- A place that names pass from a place on. -/
def Passed (here : Path) (names : List String) (p : Path) : Prop :=
  ∃ k, p = walk here (names.take k)

/-- A tree has what another has and new directories, all at certain places. -/
def Extends (place : Path → Prop) (t t' : FileTree) : Prop :=
  ∀ q, t'.found? q = t.found? q ∨
    place q ∧ t.found? q = none ∧ t'.found? q = some .directory

namespace Extends

variable {place other : Path → Prop} {t t' t'' : FileTree}

theorem refl (place : Path → Prop) (t : FileTree) : Extends place t t :=
  fun _ => .inl rfl

theorem trans (h : Extends place t t') (h' : Extends place t' t'') : Extends place t t'' := by
  intro q
  rcases h q with hsame | ⟨hplace, hnone, hnew⟩
  · rw [← hsame]
    exact h' q
  · rcases h' q with hsame | ⟨-, hnone', -⟩
    · exact .inr ⟨hplace, hnone, hsame.trans hnew⟩
    · rw [hnew] at hnone'
      cases hnone'

theorem mono (h : Extends place t t') (himp : ∀ q, place q → other q) : Extends other t t' :=
  fun q => (h q).imp_right fun ⟨hplace, hrest⟩ => ⟨himp q hplace, hrest⟩

end Extends

/-- A new directory shows at its place only. -/
theorem extends_of_new {t : FileTree} {here : Path} {name : String}
    (hhere : t.found? here = some .directory) (hnone : t.found? (here ++ [name]) = none) :
    Extends (· = here ++ [name]) t (t.modify here (·.insert name empty)) ∧
      (t.modify here (·.insert name empty)).found? (here ++ [name]) = some .directory := by
  obtain ⟨entries, hentries⟩ := (found?_eq_directory_iff t here).mp hhere
  have hput := found?_modify_of_put (f := (·.insert name empty)) hentries
    (by rw [NameMap.get?_insert, if_pos rfl])
    (fun other hother => by rw [NameMap.get?_insert, if_neg fun heq => hother heq.symm])
    (fun next rest => rfl) (by rw [hnone]; nofun)
  have hnew := hput (here ++ [name])
  rw [if_pos rfl] at hnew
  refine ⟨fun q => ?_, hnew⟩
  by_cases hq : q = here ++ [name]
  · exact .inr ⟨hq, hq ▸ hnone, hq ▸ hnew⟩
  · rw [hput q, if_neg hq]
    exact .inl rfl

/-- What going down a path comes to: directories have been added at places on the way and nothing
else has changed, and where it came to an end there is a directory. -/
structure Leads (t : FileTree) (here : Path) (names : List String)
    (result : Option Path × FileTree) : Prop where
  added : Extends (Passed here names) t result.2
  ended : ∀ place, result.1 = some place →
    place = walk here names ∧ result.2.found? place = some .directory

/-- A path that cannot be followed changes nothing. -/
theorem Leads.stuck (t : FileTree) (here : Path) (names : List String) :
    Leads t here names (none, t) :=
  ⟨.refl _ t, nofun⟩

/-- One name is followed, and then the others. -/
theorem Leads.cons {t t' : FileTree} {here next : Path} {name : String} {rest : List String}
    {result : Option Path × FileTree} (hstep : walk here [name] = next)
    (hadded : Extends (· = next) t t') (h : Leads t' next rest result) :
    Leads t here (name :: rest) result := by
  subst hstep
  refine ⟨.trans (hadded.mono ?_) (h.added.mono ?_), h.ended⟩
  · rintro q rfl
    exact ⟨1, rfl⟩
  · rintro q ⟨k, rfl⟩
    exact ⟨k + 1, rfl⟩

/-- **Going down a path** from a directory. -/
theorem leads_descend (t : FileTree) (here : Path) (names : List String)
    (hhere : t.found? here = some .directory) : Leads t here names (t.descend here names) := by
  induction names generalizing t here with
  | nil =>
    refine ⟨.refl _ t, ?_⟩
    rintro place ⟨⟩
    exact ⟨rfl, hhere⟩
  | cons name rest ih =>
    rw [descend]
    by_cases hup : name = ".."
    · rw [if_pos hup]
      exact .cons (if_pos hup) (.refl _ t) (ih t here.dropLast (found?_dropLast hhere))
    · rw [if_neg hup]
      have hstep : walk here [name] = here ++ [name] := if_neg hup
      cases hnode : t.node? (here ++ [name]) with
      | none =>
        have hnone : t.found? (here ++ [name]) = none := by rw [found?, hnode]; rfl
        obtain ⟨hnew, hdir⟩ := extends_of_new hhere hnone
        simp only [hnode]
        split
        · exact .cons hstep hnew (ih _ _ hdir)
        · exact .stuck t here _
      | some node =>
        simp only [hnode]
        cases node with
        | file content => exact .stuck t here _
        | directory entries =>
          have hdir : t.found? (here ++ [name]) = some .directory := by rw [found?, hnode]; rfl
          exact .cons hstep (.refl _ t) (ih t _ hdir)

/-! ## The temporary file -/

theorem le_foldl_longest (entries : NameMap FileTree) (n : Nat) :
    n ≤ entries.foldl (fun n entry => max n entry.1.length) n ∧
      ∀ name, NameMap.get? entries name ≠ none →
        name.length ≤ entries.foldl (fun n entry => max n entry.1.length) n := by
  induction entries generalizing n with
  | nil => exact ⟨Nat.le_refl n, fun name h => absurd rfl h⟩
  | cons entry rest ih =>
    obtain ⟨hle, hrest⟩ := ih (max n entry.1.length)
    rw [List.foldl_cons]
    refine ⟨by omega, fun name hname => ?_⟩
    rw [NameMap.get?] at hname
    by_cases heq : entry.1 = name
    · rw [← heq]
      omega
    · rw [if_neg heq] at hname
      exact hrest name hname

/-- The name of the temporary file is not in use. -/
theorem get?_unusedName (entries : NameMap FileTree) :
    NameMap.get? entries (unusedName entries) = none := by
  refine Classical.byContradiction fun h => ?_
  have hle := (le_foldl_longest entries 0).2 _ h
  have hlength : (unusedName entries).length =
      entries.foldl (fun n entry => max n entry.1.length) 0 + 1 := by
    rw [unusedName, String.length_ofList, List.length_cons, List.length_replicate]
  omega

/-- A temporary file that is taken away leaves no trace. -/
theorem found?_discarded {t : FileTree} {here : Path} {entries : NameMap FileTree}
    (h : t.entries? here = some entries) (content : List UInt8) (q : Path) :
    ((t.modify here (·.insert (unusedName entries) (.file content))).modify here
      (·.erase (unusedName entries))).found? q = t.found? q := by
  rw [modify_modify]
  refine found?_modify_of_same h (fun name => ?_) q
  rw [NameMap.get?_erase, NameMap.get?_insert]
  by_cases hname : unusedName entries = name
  · rw [if_pos hname, ← hname, get?_unusedName]
  · rw [if_neg hname, if_neg hname]

/-- A file that is renamed takes the place of what is no directory. -/
theorem eq_of_rename? {t t' node : FileTree} {here : Path} {source target : String}
    (hsource : t.node? (here ++ [source]) = some node)
    (h : t.rename? here source target = some t') :
    t.found? (here ++ [target]) ≠ some .directory ∧
      t' = t.modify here fun entries => (entries.erase source).insert target node := by
  unfold rename? at h
  rw [hsource] at h
  rw [found?]
  cases htarget : t.node? (here ++ [target]) with
  | none =>
    simp only [htarget, Option.some.injEq] at h
    exact ⟨nofun, h.symm⟩
  | some old =>
    cases old with
    | directory entries => simp [htarget] at h
    | file content =>
      simp only [htarget, Option.some.injEq] at h
      exact ⟨nofun, h.symm⟩

/-- **Taking the place of the destination** shows there and nowhere else. -/
theorem found?_of_rename? {t t' : FileTree} {here : Path} {entries : NameMap FileTree}
    (h : t.entries? here = some entries) {content : List UInt8} {name : String}
    (hrename : (t.modify here (·.insert (unusedName entries) (.file content))).rename? here
      (unusedName entries) name = some t') (q : Path) :
    t'.found? q = if q = here ++ [name] then some (.file content) else t.found? q := by
  have hsource : (t.modify here (·.insert (unusedName entries) (.file content))).node?
      (here ++ [unusedName entries]) = some (.file content) := by
    rw [node?_modify_append t here _ _ h, node?, NameMap.get?_insert, if_pos rfl]
    rfl
  obtain ⟨hfree, rfl⟩ := eq_of_rename? hsource hrename
  have hold : t.found? (here ++ [name]) ≠ some .directory := by
    rw [found?_append_cons h]
    rw [found?_modify_append_cons h, NameMap.get?_insert] at hfree
    by_cases hname : unusedName entries = name
    · rw [← hname, get?_unusedName]
      intro hdirectory
      cases hdirectory
    · rwa [if_neg hname] at hfree
  rw [modify_modify]
  have hleaf (next : String) (rest : Path) : (file content).found? (next :: rest) = none := rfl
  refine found?_modify_of_put h ?_ (fun other hother => ?_) hleaf hold q
  · rw [NameMap.get?_insert, if_pos rfl]
  · rw [NameMap.get?_insert, if_neg fun heq => hother heq.symm, NameMap.get?_erase,
      NameMap.get?_insert]
    by_cases hname : unusedName entries = other
    · rw [if_pos hname, ← hname, get?_unusedName]
    · rw [if_neg hname, if_neg hname]

/-! ## Writing -/

/-- The place of the file that the text of a path names. -/
def destination (path : String) : Path :=
  walk [] (segments path)

/-- The places that the text of a path passes on the way to the directory of its file. -/
def OnTheWay (path : String) : Path → Prop :=
  Passed [] (segments path).dropLast

/-- A path that can mean a file ends in the name of the file. -/
theorem destination_eq {path name : String} (hlast : (segments path).getLast? = some name)
    (hfile : namesDirectory path = false) :
    destination path = walk [] (segments path).dropLast ++ [name] := by
  unfold namesDirectory at hfile
  cases hpiece : (pieces path).getLast? with
  | none => rw [hpiece] at hfile; cases hfile
  | some last =>
    rw [hpiece, Option.map_some, Option.getD_some, Bool.or_eq_false_iff, decide_eq_false_iff_not]
      at hfile
    obtain ⟨hidle, hup⟩ := hfile
    obtain ⟨front, hfront⟩ := List.getLast?_eq_some_iff.mp hpiece
    have hsegments : segments path = front.filter (!isIdle ·) ++ [last] := by
      rw [segments, hfront, List.filter_append]
      simp [hidle]
    rw [hsegments, List.getLast?_concat, Option.some.injEq] at hlast
    subst hlast
    rw [destination, hsegments, List.dropLast_concat, walk, List.foldl_append]
    exact if_neg hup

/-- How writing a file can end. -/
inductive Writes (t : FileTree) (path : String) (content : List UInt8) :
    Bool × FileTree → Prop where
  /-- No file has changed, though there may be directories on the way. -/
  | failed {t' : FileTree} : Extends (OnTheWay path) t t' → Writes t path content (false, t')
  /-- The content stands at the destination, and all else is as if only directories had been
  made. -/
  | written {made t' : FileTree} : Extends (OnTheWay path) t made →
      (∀ q, t'.found? q =
        if q = destination path then some (.file content) else made.found? q) →
      Writes t path content (true, t')

section RootFile

variable (own : List UInt8)

theorem modify_of_file (p : Path) (f : NameMap FileTree → NameMap FileTree) :
    (file own).modify p f = file own := by
  cases p <;> rfl

theorem node?_of_file (p : Path) (name : String) : (file own).node? (p ++ [name]) = none := by
  cases p <;> rfl

theorem descend_of_file (here : Path) (names : List String) :
    ((file own).descend here names).2 = file own := by
  induction names generalizing here with
  | nil => rfl
  | cons name rest ih =>
    simp only [descend, node?_of_file, modify_of_file]
    split
    · exact ih _
    · split
      · exact ih _
      · rfl

/-- Into a file that stands at the root nothing is written. -/
theorem write_of_file (path : String) (content : List UInt8) :
    (file own).write path content = (false, file own) := by
  unfold write
  cases (segments path).getLast? with
  | none => rfl
  | some name =>
    dsimp only
    split
    · rfl
    · have hsame := descend_of_file own [] (segments path).dropLast
      cases hdescend : (file own).descend [] (segments path).dropLast with
      | mk place made =>
        rw [hdescend] at hsame
        obtain rfl : made = file own := hsame
        cases place with
        | none => rfl
        | some here => simp [modify_of_file, rename?, node?_of_file]

end RootFile

/-- Where the path leads, the file takes its place, or the temporary file is taken away. -/
theorem writes_of_leads {t made : FileTree} {here : Path} {path name : String}
    (content : List UInt8) (hlast : (segments path).getLast? = some name)
    (h : Leads t [] (segments path).dropLast (some here, made)) {entries : NameMap FileTree}
    (hentries : made.entries? here = some entries) (isTarget : Bool)
    (htarget : isTarget = true → namesDirectory path = false) :
    let staged := made.modify here (·.insert (unusedName entries) (.file content))
    Writes t path content
      (match if isTarget then staged.rename? here (unusedName entries) name else none with
        | some t' => (true, t')
        | none => (false, staged.modify here (·.erase (unusedName entries)))) := by
  intro staged
  split
  · rename_i t' hrename
    split at hrename
    · rename_i hfile
      have hplace : destination path = here ++ [name] := by
        rw [destination_eq hlast (htarget hfile), (h.ended here rfl).1]
      refine .written h.added fun q => ?_
      rw [hplace]
      exact found?_of_rename? hentries hrename q
    · cases hrename
  · exact .failed (h.added.trans fun q => .inl (found?_discarded hentries content q))

/-- **Writing a file is all or nothing.** -/
theorem writes_write (t : FileTree) (path : String) (content : List UInt8) :
    Writes t path content (t.write path content) := by
  cases t with
  | file own =>
    rw [write_of_file]
    exact .failed (.refl _ _)
  | directory own =>
    unfold write
    cases hlast : (segments path).getLast? with
    | none => exact .failed (.refl _ _)
    | some name =>
      dsimp only
      have hleads : Leads (directory own) [] (segments path).dropLast
          ((directory own).descend [] (segments path).dropLast) := leads_descend _ _ _ rfl
      split
      · exact .failed (.refl _ _)
      · cases hdescend : (directory own).descend [] (segments path).dropLast with
        | mk place made =>
          rw [hdescend] at hleads
          cases place with
          | none => exact .failed hleads.added
          | some here =>
            obtain ⟨entries, hentries⟩ :=
              (found?_eq_directory_iff made here).mp (hleads.ended here rfl).2
            dsimp only
            rw [hentries, Option.getD_some]
            split
            · exact .failed hleads.added
            · refine writes_of_leads content hlast hleads hentries _ fun htarget => ?_
              simp only [Bool.and_eq_true, Bool.not_eq_true'] at htarget
              exact htarget.1.1

end FileTree

end Proforma
