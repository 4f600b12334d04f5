import CommitHeader.Proofs.Ref.Name

/-!
# Kinds of names

Nothing in a record of fields ties them together. Filled in from a complete name, and from a remote
that leads its path, they are the parts of the name that is read: they make up the complete name
again, and no lead is ever missing.
-/

namespace CommitHeader.RefName

namespace Fields

/-- The fields make up the complete name in the way of their kind. -/
inductive IsWhole : Fields → Prop
  | head (short : String) : IsWhole ⟨headsDirectory ++ short, none, short, .head⟩
  | tracking (remote short : String) (hne : remote ≠ "") :
      IsWhole ⟨remotesDirectory ++ remote ++ "/" ++ short, some remote, short, .tracking⟩
  | tag (short : String) : IsWhole ⟨tagsDirectory ++ short, none, short, .tag⟩
  | peeled (short : String) : IsWhole ⟨tagsDirectory ++ short ++ peelMark, none, short, .tag⟩
  | other (complete : String) (hheads : ∀ short, complete ≠ headsDirectory ++ short)
      (htags : ∀ path, complete ≠ tagsDirectory ++ path) :
      IsWhole ⟨complete, none, complete, .other⟩

theorem tail?_eq_some_iff {complete remote short : String} :
    tail? complete remote = some short ↔
      complete = remotesDirectory ++ remote ++ "/" ++ short := by
  simp only [tail?, Option.bind_eq_some_iff, Text.afterLead?_eq_some_iff]
  constructor
  · rintro ⟨rest, ⟨path, rfl, rfl⟩, rfl⟩
    simp only [String.append_assoc]
  · rintro rfl
    exact ⟨"/" ++ short, ⟨remote ++ ("/" ++ short), by simp only [String.append_assoc], rfl⟩, rfl⟩

theorem leading?_eq_some_iff {complete remote : String} :
    leading? complete = some remote ↔ ∃ short, ofComplete complete = .tracking remote short := by
  simp only [leading?, ofComplete_eq_tracking_iff, Option.filter_eq_some_iff,
    Option.map_eq_some_iff, Prod.exists, firstSegment_eq_some_iff]
  constructor
  · rintro ⟨⟨_, short, ⟨hslash, hcomplete⟩, rfl⟩, hne⟩
    exact ⟨short, of_decide_eq_true hne, hslash, hcomplete⟩
  · rintro ⟨short, hne, hslash, hcomplete⟩
    exact ⟨⟨remote, short, ⟨hslash, hcomplete⟩, rfl⟩, decide_eq_true hne⟩

end Fields

/-! ## Kinds -/

theorem isHead_iff (name : RefName) : name.isHead = true ↔ name.kind = .head := by
  cases name <;> simp [isHead, kind]

theorem isRemote_iff (name : RefName) : name.isRemote = true ↔ name.kind = .tracking := by
  cases name <;> simp [isRemote, kind]

theorem isTag_iff (name : RefName) : name.isTag = true ↔ name.kind = .tag := by
  cases name <;> simp [isTag, kind]

theorem kind_ofComplete_eq_tracking_iff {complete : String} :
    (ofComplete complete).kind = .tracking ↔ ∃ remote short, remote ≠ "" ∧
      '/' ∉ remote.toList ∧ complete = remotesDirectory ++ remote ++ "/" ++ short := by
  simp only [← ofComplete_eq_tracking_iff]
  constructor
  · intro h
    exact ⟨_, _, eq_tracking_of_isRemote ((isRemote_iff _).mpr h)⟩
  · rintro ⟨remote, short, hname⟩
    rw [hname]
    rfl

/-! ## Names that are read -/

section Read

variable {complete : String} {remote? : Option String} {name : RefName}

theorem complete_of_read (h : read complete remote? = .ok name) : name.complete = complete := by
  cases remote? with
  | none =>
      cases h
      exact complete_ofComplete complete
  | some remote =>
      obtain ⟨-, short, rfl, hcomplete⟩ := ofRemote_eq_ok_iff.mp h
      exact hcomplete.symm

theorem remoteName_ne_empty_of_read (h : read complete remote? = .ok name)
    (hremote : name.isRemote) : name.remoteName ≠ "" := by
  cases remote? with
  | none =>
      rw [eq_tracking_of_isRemote hremote] at h
      exact (ofComplete_eq_tracking_iff.mp (Except.ok.inj h)).1
  | some remote =>
      obtain ⟨hne, short, rfl, -⟩ := ofRemote_eq_ok_iff.mp h
      exact hne

theorem remoteName_ne_empty_iff (h : read complete remote? = .ok name) :
    name.remoteName ≠ "" ↔ name.kind = .tracking := by
  rw [← isRemote_iff]
  refine ⟨fun hne => ?_, remoteName_ne_empty_of_read h⟩
  cases name with
  | tracking remote short => rfl
  | _ => exact absurd rfl hne

theorem tail?_of_read (h : read complete remote? = .ok name) {remote : String}
    (hremote : name.remote? = some remote) : Fields.tail? complete remote = some name.short := by
  rw [Fields.tail?_eq_some_iff, ← complete_of_read h]
  cases name with
  | tracking _ short =>
      cases hremote
      rfl
  | _ => cases hremote

theorem of_ofComplete_eq_other {short : String} (h : ofComplete complete = .other short) :
    (∀ rest, complete ≠ headsDirectory ++ rest) ∧ ∀ path, complete ≠ tagsDirectory ++ path := by
  constructor
  · rintro rest rfl
    rw [ofComplete_heads] at h
    cases h
  · rintro path rfl
    rw [ofComplete_tags, ofTagPath] at h
    split at h <;> cases h

theorem isWhole_fields (h : read complete remote? = .ok name) : name.fields.IsWhole := by
  cases name with
  | head short => exact .head short
  | tracking remote short => exact .tracking remote short (remoteName_ne_empty_of_read h rfl)
  | tag short peeled =>
      cases peeled with
      | true => exact .peeled short
      | false =>
          have hcomplete : (RefName.tag short false).complete = tagsDirectory ++ short :=
            String.append_empty
          rw [fields, hcomplete]
          exact .tag short
  | other short =>
      cases remote? with
      | none =>
          obtain rfl : short = complete := complete_of_read h
          obtain ⟨hheads, htags⟩ := of_ofComplete_eq_other (Except.ok.inj h)
          exact .other short hheads htags
      | some remote =>
          obtain ⟨-, _, hname, -⟩ := ofRemote_eq_ok_iff.mp h
          cases hname

end Read

theorem fields_ofTagPath (path : String) :
    (ofTagPath path).fields =
      ⟨tagsDirectory ++ path, none, (Text.beforeTail? peelMark path).getD path, .tag⟩ := by
  rw [fields, complete_ofTagPath, ofTagPath]
  cases Text.beforeTail? peelMark path <;> rfl

theorem fill_none {complete : String} (h : ofTracking? complete = none) :
    Fields.fill complete none = (ofComplete complete).fields := by
  cases hheads : Text.afterLead? headsDirectory complete with
  | some short =>
      obtain rfl := Text.afterLead?_eq_some_iff.mp hheads
      rw [ofComplete_heads, Fields.fill, hheads]
      rfl
  | none =>
      cases htags : Text.afterLead? tagsDirectory complete with
      | some path =>
          obtain rfl := Text.afterLead?_eq_some_iff.mp htags
          rw [ofComplete_tags, fields_ofTagPath, Fields.fill, hheads, htags]
      | none =>
          rw [ofComplete, h, Fields.fill, hheads, htags]
          rfl

/-- Where the remote is the first segment, that segment leads the path. -/
theorem fill_leading? (complete : String) :
    Fields.fill complete (Fields.leading? complete) = (ofComplete complete).fields := by
  cases hleading : Fields.leading? complete with
  | some remote =>
      obtain ⟨short, hname⟩ := Fields.leading?_eq_some_iff.mp hleading
      obtain ⟨-, -, hcomplete⟩ := ofComplete_eq_tracking_iff.mp hname
      rw [hname, Fields.fill, Fields.tail?_eq_some_iff.mpr hcomplete, hcomplete]
      rfl
  | none =>
      apply fill_none
      rw [Option.eq_none_iff_forall_ne_some]
      -- A name read off a first segment has that segment for its leading remote.
      intro name hname
      obtain ⟨remote, short, hne, hslash, hcomplete, -⟩ := ofTracking?_eq_some_iff.mp hname
      have hsome := Fields.leading?_eq_some_iff.mpr
        ⟨short, ofComplete_eq_tracking_iff.mpr ⟨hne, hslash, hcomplete⟩⟩
      rw [hleading] at hsome
      cases hsome

/-- The fields are filled in with the parts of the name that is read, or rejected with it. -/
theorem fields_read (complete : String) (remote? : Option String) :
    Fields.read complete remote? = (read complete remote?).map fields := by
  cases remote? with
  | none =>
      rw [Fields.read, fill_leading?]
      rfl
  | some remote =>
      rw [read]
      cases hname : ofRemote complete remote with
      | ok name =>
          obtain ⟨hne, short, rfl, hcomplete⟩ := ofRemote_eq_ok_iff.mp hname
          have htail := Fields.tail?_eq_some_iff.mpr hcomplete
          rw [Fields.read, if_pos ⟨hne, Option.isSome_iff_exists.mpr ⟨short, htail⟩⟩, Fields.fill,
            htail, hcomplete]
          rfl
      | error mismatch =>
          obtain ⟨hbelongs, rfl⟩ := ofRemote_eq_error_iff.mp hname
          rw [Fields.read, if_neg]
          · rfl
          · rintro ⟨hne, htail⟩
            obtain ⟨short, hshort⟩ := Option.isSome_iff_exists.mp htail
            exact hbelongs ⟨hne, short, Fields.tail?_eq_some_iff.mp hshort⟩

/-- A name that is read has one kind, and its parts make up the complete name in the way of that
kind. They are what the fields are filled in with, and the remote among them leads the path. A
complete name alone is that of a remote-tracking branch exactly if a first segment and a slash follow
the directory of those. -/
theorem parts_make_up_complete (complete : String) (remote? : Option String) (name : RefName)
    (h : read complete remote? = .ok name) :
    name.complete = complete ∧ name.fields.IsWhole ∧
    Fields.read complete remote? = .ok name.fields ∧
    (∀ remote, name.remote? = some remote →
      Fields.tail? complete remote = some name.short) ∧
    (name.remoteName ≠ "" ↔ name.kind = .tracking) ∧
    (name.isHead ↔ name.kind = .head) ∧ (name.isRemote ↔ name.kind = .tracking) ∧
    (name.isTag ↔ name.kind = .tag) ∧ ¬ (name.isHead ∧ name.isRemote) ∧
    ((ofComplete complete).kind = .tracking ↔ ∃ remote short, remote ≠ "" ∧
      '/' ∉ remote.toList ∧ complete = "refs/remotes/" ++ remote ++ "/" ++ short) := by
  have hfields : Fields.read complete remote? = .ok name.fields := by
    rw [fields_read, h]
    rfl
  have hexclusive : ¬ (name.isHead ∧ name.isRemote) := by
    rw [isHead_iff, isRemote_iff]
    rintro ⟨hhead, hremote⟩
    rw [hhead] at hremote
    cases hremote
  exact ⟨complete_of_read h, isWhole_fields h, hfields, fun remote => tail?_of_read h,
    remoteName_ne_empty_iff h, isHead_iff name, isRemote_iff name, isTag_iff name, hexclusive,
    kind_ofComplete_eq_tracking_iff⟩

theorem read_team_core_main :
    read "refs/remotes/team/core/main" (some "team/core") =
      .ok (.tracking "team/core" "main") := by
  rw [read, ofRemote_eq_ok_iff]
  exact ⟨by decide, "main", rfl, by decide⟩

theorem parts_make_up_complete_sample :
    read "refs/remotes/team/core/main" (some "team/core") = .ok (.tracking "team/core" "main") ∧
      Fields.read "refs/remotes/team/core/main" (some "team/core") =
        .ok ⟨"refs/remotes/team/core/main", some "team/core", "main", .tracking⟩ := by
  obtain ⟨-, -, hfields, -⟩ := parts_make_up_complete _ _ _ read_team_core_main
  exact ⟨read_team_core_main, hfields⟩

end CommitHeader.RefName
