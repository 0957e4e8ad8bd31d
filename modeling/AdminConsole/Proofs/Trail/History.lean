import AdminConsole.Proofs.Trail.Coherence
import AdminConsole.Proofs.Trail.Deletion

/-! # What is not taken back

Some things are final once the data says them: how a report was closed, by whom
and with what note; that its content is down; that a member is verified; that a
payment is refunded, when and why; and that a member is gone
(`Data.HistoryKept`).

`Data.Becomes` has all of this but the handler of a closed report.  Whoever
takes the content of a report down is entered as its handler, but only if there
is none; so the handler of a closed report stays because a closed report has
one, which is a matter of coherence and not of the action.
-/
namespace AdminConsole

/-- What `d` says for good is the same in `e`. -/
structure Data.HistoryKept (d e : Data) : Prop where
  closed : ∀ id r, Entity.find? id d.reports = some r → r.status ≠ .opened →
    ∃ r', Entity.find? id e.reports = some r' ∧ r'.status = r.status ∧
      r'.handledBy = r.handledBy ∧ r'.resolutionNote = r.resolutionNote
  removed : ∀ id r, Entity.find? id d.reports = some r → r.contentRemoved = true →
    ∃ r', Entity.find? id e.reports = some r' ∧ r'.contentRemoved = true
  verified : ∀ id m m', Entity.find? id d.members = some m → Entity.find? id e.members = some m' →
    m.verified = true → m'.verified = true
  refunded : ∀ id p, Entity.find? id d.payments = some p → p.status = .refunded →
    ∃ p', Entity.find? id e.payments = some p' ∧ p'.status = .refunded ∧
      p'.refundedAt = p.refundedAt ∧ p'.refundReason = p.refundReason
  /-- Nobody appears. -/
  absent : ∀ id, id ∉ d.memberIds → id ∉ e.memberIds

namespace Data.Becomes

variable {d e : Data} {id : Uuid}

theorem find?_report (h : d.Becomes e) {r : Report} (hr : Entity.find? id d.reports = some r) :
    ∃ r', Entity.find? id e.reports = some r' ∧ r.Becomes r' :=
  exists_find?_of_forall₂ (fun _ _ hbecomes => hbecomes.id_eq) h.reports hr

theorem find?_payment (h : d.Becomes e) {p : Payment} (hp : Entity.find? id d.payments = some p) :
    ∃ p', Entity.find? id e.payments = some p' ∧ p.Becomes p' :=
  exists_find?_of_forall₂ (fun _ _ hbecomes => hbecomes.id_eq) h.payments hp

/-- A member that is still there is what became of the one with its identifier. -/
theorem find?_member (h : d.Becomes e) (hd : d.memberIds.Nodup) {m m' : Member}
    (hm : Entity.find? id d.members = some m) (hm' : Entity.find? id e.members = some m') :
    m.Becomes m' := by
  have hid : m'.id = m.id := (id_eq_of_find? hm').trans (id_eq_of_find? hm).symm
  obtain ⟨kept, hkept, hsub⟩ := List.sublistForall₂_iff.mp h.members
  obtain ⟨m₀, hm₀, hbecomes⟩ := exists_mem_of_forall₂ hkept (List.mem_of_find?_eq_some hm')
  have hsame : m₀ = m := List.inj_on_of_nodup_map hd (hsub.subset hm₀)
    (List.mem_of_find?_eq_some hm) (hbecomes.id_eq.symm.trans hid)
  exact hsame ▸ hbecomes

/-- What becomes of coherent data is no other history. -/
theorem historyKept (h : d.Becomes e) (hd : d.Coherent) (hids : d.memberIds.Nodup) :
    d.HistoryKept e where
  closed id r hr hclosed := by
    obtain ⟨r', hr', hbecomes⟩ := h.find?_report hr
    obtain ⟨hstatus, hnote⟩ := hbecomes.closed hclosed
    have hsome := (hd.reports r (List.mem_of_find?_eq_some hr)).closed_handled hclosed
    exact ⟨r', hr', hstatus, hbecomes.handled hclosed hsome, hnote⟩
  removed id r hr hremoved := by
    obtain ⟨r', hr', hbecomes⟩ := h.find?_report hr
    exact ⟨r', hr', hbecomes.removed hremoved⟩
  verified id m m' hm hm' := (h.find?_member hids hm hm').verified
  refunded id p hp hrefunded := by
    obtain ⟨p', hp', hbecomes⟩ := h.find?_payment hp
    obtain rfl := hbecomes.refunded hrefunded
    exact ⟨p', hp', hrefunded, rfl, rfl⟩
  absent id hid hid' := hid (h.memberIds_sublist.subset hid')

end Data.Becomes

/-- **History is kept, and who was deleted stays away.** -/
theorem Data.LeadsBy.historyKept {c d e : Data} {deeds : List Deed} (h : c.LeadsBy deeds d)
    (h' : d.Leads e) (hc : c.Coherent) (hids : c.DistinctIds) :
    d.HistoryKept e ∧ ∀ id ∈ deletions deeds, id ∉ d.memberIds ∧ id ∉ e.memberIds := by
  obtain ⟨hmembers, -, -⟩ := h.memberIds_eq hids.members
  have hkept : d.HistoryKept e :=
    h'.becomes.historyKept (h.leads.coherent hc) (hmembers ▸ hids.members.filter _)
  refine ⟨hkept, fun id hid => ?_⟩
  have hgone : id ∉ d.memberIds := by
    rw [hmembers, List.mem_filter, decide_eq_true_iff]
    exact fun hmem => hmem.2 hid
  exact ⟨hgone, hkept.absent id hgone⟩

namespace Console

theorem obeyAll_append (c : Console) (orders more : List Order) :
    c.obeyAll (orders ++ more) = (c.obeyAll orders).obeyAll more := List.foldl_append

/-- **History is not rewritten.**  The console starts with coherent data and distinct identifiers.
From there, or from any other such data, whichever orders are obeyed and however calls interleave:
what the data says for good at some time it says at every later time, and a member that was deleted
by then is not there then or at any later time. -/
theorem history_stands :
    (Sample.data.Coherent ∧ Sample.data.DistinctIds) ∧
    ∀ start : Console, start.data.Coherent → start.data.DistinctIds →
      (∀ before after : List Order,
        let d := (start.obeyAll before).data
        let e := (start.obeyAll (before ++ after)).data
        d.HistoryKept e ∧
          ∀ id ∈ (start.carriedOut before).filterMap fun order => order.action.deleted?,
            id ∉ d.memberIds ∧ id ∉ e.memberIds) ∧
      ∀ before after : List Move,
        let f := (Floor.opened start).run before
        let d := f.console.data
        let e := ((Floor.opened start).run (before ++ after)).console.data
        d.HistoryKept e ∧
          ∀ id ∈ f.changes.filterMap fun c => c.call.action.deleted?,
            id ∉ d.memberIds ∧ id ∉ e.memberIds := by
  refine ⟨⟨Data.coherent_sample, Data.distinctIds_sample⟩, fun start hstart hids =>
    ⟨fun before after => ?_, fun before after => ?_⟩⟩
  · intro d e
    have hkept := (leadsBy_obeyAll start before).historyKept (leads_obeyAll _ after) hstart hids
    rw [deletions_trail, ← obeyAll_append] at hkept
    exact hkept
  · intro f d e
    have hkept := (Floor.leadsBy_run start before).historyKept (f.leads_on after) hstart hids
    rw [deletions_changes, ← Floor.run_append] at hkept
    exact hkept

/-- A report is closed, a member verified, a payment refunded and another member deleted. -/
def sampleEndings : List Order :=
  [sampleOrder 3 (.resolveReport (Sample.reportId 1) (some "Warned")),
    sampleOrder 5 (.verifyMember (Sample.memberId 3)),
    sampleOrder 5 (.refundPayment (Sample.paymentId 1) (some "Bought twice")),
    sampleOrder 2 (.deleteMember (Sample.memberId 12))]

/-- Somebody else takes the content of the closed report down; the rest cannot be done any more. -/
def sampleAfterthoughts : List Order :=
  [sampleOrder 4 (.removeContent (Sample.reportId 1)),
    sampleOrder 4 (.dismissReport (Sample.reportId 1) none),
    sampleOrder 4 (.refundPayment (Sample.paymentId 1) none),
    sampleOrder 4 (.verifyMember (Sample.memberId 12))]

theorem history_stands_sampleAfterthoughts :
    (sample.data.Coherent ∧ sample.data.DistinctIds) ∧
    (sample.carriedOut (sampleEndings ++ sampleAfterthoughts)).length = 5 ∧
    let d := (sample.obeyAll sampleEndings).data
    let e := (sample.obeyAll (sampleEndings ++ sampleAfterthoughts)).data
    d.HistoryKept e ∧
      ∀ id ∈ (sample.carriedOut sampleEndings).filterMap fun order => order.action.deleted?,
        id ∉ d.memberIds ∧ id ∉ e.memberIds :=
  ⟨history_stands.1, by decide,
    (history_stands.2 sample history_stands.1.1 history_stands.1.2).1 sampleEndings
      sampleAfterthoughts⟩

end Console

end AdminConsole
