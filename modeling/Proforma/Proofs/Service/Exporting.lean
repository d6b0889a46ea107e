import Proforma.Proofs.Files.Writing
import Proforma.Proofs.Service.Course

/-!
# Exports to a file

An export to a file writes only when the content has arrived: with a response that reports success,
of a call that is not refused (`Call.Receives`). Before that no file and no directory changes, and
after it writing is all or nothing, so the export is (`export_all_or_nothing`).
-/

namespace Proforma

namespace Call

/-- A call is answered with a response that reports success: nothing is wrong with the call, and
waiting ends with that response. -/
def Receives (call : Call) (c : Circumstances) (reply : TimedReply) (r : Response) : Prop :=
  call.Admissible c.config.endpoints ∧ r.Succeeds ∧
    ∃ instant, Waited c.config.timeout c.cancelAt reply (.ok (.response r)) instant

/-- The run of an export either fails or gives the content of a response that reports success. -/
theorem run_exportTo (id : Int64) (path : String) (c : Circumstances) (reply : TimedReply) :
    (∃ f, ((exportTo id path).run c reply).result = .error f) ∨
      ∃ r, (exportTo id path).Receives c reply r ∧
        ((exportTo id path).run c reply).result = .ok (.bytes r.body) := by
  rcases admissible_or_refused c.config.endpoints (exportTo id path) with hadm | ⟨f, hf⟩
  · obtain ⟨out, hout⟩ := exists_outgoing?_of_admissible hadm
    obtain ⟨ending, instant, hw⟩ := exists_waited c.config.timeout c.cancelAt reply
    have hfile : (exportTo id path).file? = some path := rfl
    rw [run_result_of_waited hout hw, concluded]
    rcases conclude_of_file hfile c.config.fallback c.clock ending with
      ⟨r, rfl, hs, hconclude⟩ | ⟨-, f, hconclude⟩
    · rw [hconclude]
      exact .inr ⟨r, ⟨hadm, hs, instant, hw⟩, rfl⟩
    · rw [hconclude]
      exact .inl ⟨f, rfl⟩
  · exact .inl ⟨f, congrArg Outcome.result (outcome_of_refused hf reply)⟩

end Call

/-- **An export to a file is all or nothing.** Let an export be made in any tree. If it answers, a
response that reports success has arrived; its content stands at the destination, everything else
stands as before, and there may be new directories on the way to the destination. If it fails,
everything stands as before but for new directories on the way, and even these are there only if
such a response has arrived. -/
theorem export_all_or_nothing (id : Int64) (path : String) (c : Circumstances) (reply : TimedReply)
    (files : FileTree) :
    let call := Call.exportTo id path
    let result := (call.perform c reply files).1.result
    let after := (call.perform c reply files).2
    (∀ answer, result = .ok answer → ∃ r, call.Receives c reply r ∧
        after.found? (FileTree.destination path) = some (.file r.body) ∧
        ∀ q, q ≠ FileTree.destination path → after.found? q = files.found? q ∨
          FileTree.OnTheWay path q ∧ files.found? q = none ∧ after.found? q = some .directory) ∧
      (∀ f, result = .error f → FileTree.Extends (FileTree.OnTheWay path) files after ∧
        (after ≠ files → ∃ r, call.Receives c reply r)) := by
  dsimp only
  rcases Call.run_exportTo id path c reply with ⟨f, hf⟩ | ⟨r, hreceives, hbytes⟩
  · -- nothing has arrived
    rw [Call.perform_of_error hf]
    have hresult : ((Call.exportTo id path).run c reply).outcome.result = .error f := hf
    rw [hresult]
    constructor
    · intro answer hanswer
      cases hanswer
    · intro g _
      exact ⟨.refl _ _, fun hne => absurd rfl hne⟩
  · have hbytes : ((Call.exportTo id path).run c reply).outcome.result = .ok (.bytes r.body) :=
      hbytes
    rw [Call.perform]
    have hwrites := FileTree.writes_write files path r.body
    cases hw : files.write path r.body with
    | mk done after =>
      rw [hw] at hwrites
      cases hwrites with
      | failed hextends =>
        rw [Outcome.save_of_unwritten _ path files hbytes hw]
        constructor
        · intro answer hanswer
          cases hanswer
        · intro f _
          exact ⟨hextends, fun _ => ⟨r, hreceives⟩⟩
      | @written made _ hextends hplace =>
        rw [Outcome.save_of_written _ path files hbytes hw]
        constructor
        · intro answer _
          refine ⟨r, hreceives, ?_, fun q hq => ?_⟩
          · rw [hplace, if_pos rfl]
          · rw [hplace, if_neg hq]
            exact hextends q
        · intro f hfailed
          cases hfailed

/-- An export into a directory that is not there yet, beside a file that stays. -/
theorem export_all_or_nothing_of_nested :
    let files : FileTree := .directory [("notes.txt", .file [0x6F, 0x6B])]
    let path := "reports/../reports/7.csv"
    let reply : TimedReply := ⟨40, some (.response ⟨200, [0x61, 0x2C, 0x62]⟩)⟩
    let performed := (Call.exportTo 7 path).perform ⟨.default, 0, none⟩ reply files
    performed.1.result = .ok (.path path) ∧
      performed.2.found? ["reports", "7.csv"] = some (.file [0x61, 0x2C, 0x62]) ∧
      performed.2.found? ["notes.txt"] = some (.file [0x6F, 0x6B]) := by
  intro files path reply performed
  have hsome : performed.1.result.toOption = some (.path path) := by decide +kernel
  have hresult : performed.1.result = .ok (.path path) := by
    cases hcase : performed.1.result with
    | ok answer => rw [hcase] at hsome; exact congrArg Except.ok (Option.some.inj hsome)
    | error f => rw [hcase] at hsome; cases hsome
  have hplace : FileTree.destination path = ["reports", "7.csv"] := by decide +kernel
  obtain ⟨hwritten, -⟩ := export_all_or_nothing 7 path ⟨.default, 0, none⟩ reply files
  obtain ⟨r, ⟨-, -, instant, hw⟩, hcontent, hothers⟩ := hwritten _ hresult
  cases hw.reply_eq
  rw [hplace] at hcontent hothers
  refine ⟨hresult, hcontent, ?_⟩
  rcases hothers ["notes.txt"] (by decide) with hsame | ⟨-, hnone, -⟩
  · exact hsame
  · cases hnone

end Proforma
