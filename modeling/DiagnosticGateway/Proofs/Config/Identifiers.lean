import DiagnosticGateway.Config.Validate

/-! # The identifiers of a valid configuration

A configuration is only valid if the identifiers of all its channels fit the bus, are free for use,
and are all different. So no two channels have anything in common.
-/

namespace DiagnosticGateway

/-- Both identifiers of a channel. -/
def Channel.ids (channel : Channel) : List UInt16 := [channel.requestId, channel.responseId]

theorem Channel.map_snd_identifiers (channels : List Channel) :
    (channels.flatMap Channel.identifiers).map Prod.snd = channels.flatMap Channel.ids := by
  rw [List.map_flatMap]
  rfl

namespace Config

variable {c : Config}

theorem checkIdentifiers_eq_ok_iff {reserved : List UInt16}
    (identifiers : List (ChannelRole × UInt16)) :
    ∀ seen, checkIdentifiers reserved seen identifiers = .ok () ↔
      (∀ id ∈ identifiers.map Prod.snd, id ≤ Bus.maxIdentifier ∧ id ∉ reserved ∧ id ∉ seen) ∧
        (identifiers.map Prod.snd).Nodup := by
  induction identifiers with
  | nil => intro seen; exact iff_of_true rfl ⟨List.forall_mem_nil _, List.nodup_nil⟩
  | cons first rest ih =>
      intro seen
      obtain ⟨role, id⟩ := first
      rw [List.map_cons, List.forall_mem_cons, List.nodup_cons, checkIdentifiers]
      split
      · rename_i wide
        exact iff_of_false nofun fun fits => absurd fits.1.1.1 (UInt16.not_le.mpr wide)
      · rename_i narrow
        split
        · rename_i taken
          exact iff_of_false nofun fun fits => fits.1.1.2.1 taken
        · rename_i free
          split
          · rename_i repeated
            exact iff_of_false nofun fun fits => fits.1.1.2.2 repeated
          · rename_i fresh
            -- an identifier is not seen again exactly if it differs from the rest
            rw [ih (id :: seen)]
            constructor
            · intro ⟨fits, distinct⟩
              refine ⟨⟨⟨UInt16.not_lt.mp narrow, free, fresh⟩, ?_⟩, ?_, distinct⟩
              · intro other this
                have ⟨small, usable, unseen⟩ := fits other this
                exact ⟨small, usable, fun before => unseen (List.mem_cons_of_mem _ before)⟩
              · intro this
                exact (fits id this).2.2 List.mem_cons_self
            · intro ⟨⟨_, fits⟩, absent, distinct⟩
              refine ⟨?_, distinct⟩
              intro other this
              have ⟨small, usable, unseen⟩ := fits other this
              refine ⟨small, usable, fun before => ?_⟩
              rcases List.mem_cons.mp before with rfl | before
              · exact absent this
              · exact unseen before

theorem checkIdentifiers_of_validate (valid : c.validate = .ok ()) :
    checkIdentifiers c.can.reservedIds [] (c.can.channels.flatMap Channel.identifiers) =
      .ok () := by
  unfold validate check at valid
  cases checked : checkIdentifiers c.can.reservedIds []
      (c.can.channels.flatMap Channel.identifiers) with
  | error defect =>
      rw [checked] at valid
      cases valid
  | ok => rfl

theorem ids_of_validate (valid : c.validate = .ok ()) :
    (∀ id ∈ c.can.channels.flatMap Channel.ids, id ≤ Bus.maxIdentifier) ∧
      (c.can.channels.flatMap Channel.ids).Nodup := by
  have checked := checkIdentifiers_of_validate valid
  rw [checkIdentifiers_eq_ok_iff, Channel.map_snd_identifiers] at checked
  exact ⟨fun id this => (checked.1 id this).1, checked.2⟩

theorem requestId_le_of_validate (valid : c.validate = .ok ()) :
    c.can.requestId ≤ Bus.maxIdentifier :=
  (ids_of_validate valid).1 _ (List.mem_append_left _ List.mem_cons_self)

end Config

end DiagnosticGateway
