import AgentRelay.Proofs.Plan.Reading

set_option autoImplicit false

/-!
# The home directory

Two paths lead to a plan: that of the configuration, and that of the agent which the configuration names.  A tilde in
front of either stands for the home directory, alone or with a separator behind it (`tilde_means_home`).

The tilde is looked for in text.  A path that is not text names a file as it stands, whatever its first bytes are
(`not_forall_tilde_means_home`).
-/

namespace AgentRelay

/-! ## Resolving a path -/

namespace Path

variable {p : Path} {rest : Utf8.Bytes}

theorem expand?_of_not_isText (home : Option Path) (h : ¬ p.IsText) : p.expand? home = some p := by
  rw [expand?, (text?_eq_none_iff p).2 h]
  rfl

theorem isNone_text?_of_isText (h : p.IsText) : p.text?.isNone = false := by
  obtain ⟨text, htext⟩ := h
  rw [(text?_eq_some_iff p text).2 htext]
  rfl

theorem expand?_tilde (home : Option Path) : expand? home ⟨[tilde]⟩ = home := by
  have htext : IsText ⟨[tilde]⟩ := ⟨"~", rfl⟩
  rw [expand?, isNone_text?_of_isText htext]
  rfl

theorem expand?_below (home : Option Path) (h : IsText ⟨tilde :: separator :: rest⟩) :
    expand? home ⟨tilde :: separator :: rest⟩ = home.map (·.join ⟨rest⟩) := by
  rw [expand?, isNone_text?_of_isText h]
  rfl

theorem expand?_of_no_tilde (home : Option Path) (hhome : p.bytes ≠ [tilde])
    (hbelow : ¬ [tilde, separator] <+: p.bytes) : p.expand? home = some p := by
  rw [expand?]
  split
  · rfl
  · split
    · next first hbytes =>
      rw [if_neg]
      intro htilde
      exact hhome (by rw [hbytes, beq_iff_eq.1 htilde])
    · next first second rest hbytes =>
      rw [if_neg]
      intro hboth
      obtain ⟨htilde, hseparator⟩ := (Bool.and_eq_true _ _).mp hboth
      exact hbelow ⟨rest, by rw [hbytes, beq_iff_eq.1 htilde, beq_iff_eq.1 hseparator]; rfl⟩
    · rfl

end Path

/-! ## The two paths -/

namespace Config

variable {m : Machine} {home path resolved : Path}

/-- Where a path leads: the file there is read when the path is that of a configuration, and the agent there is meant
when a configuration names it by this path. -/
structure LeadsTo (m : Machine) (path resolved : Path) : Prop where
  as_configuration : (load m path).answer = readAt m resolved
  as_agent : ∀ (config : Config) (text : String), config.options.get? agentPathKey = some text →
    path = .ofString text → config.agentPath m = .ok resolved

theorem leadsTo_of_expand? (h : path.expand? m.home = some resolved) : LeadsTo m path resolved where
  as_configuration := answer_load_of_resolved h
  as_agent config text hget hpath := by
    rw [agentPath, writtenAgentPath, Options.require, hget]
    dsimp only
    rw [← hpath, resolve, h]

/-- A path that is a tilde leads to the home directory.  A text that begins with a tilde and a separator leads to the
home directory with the rest behind it, so the components of the home directory stand in front; the rest must not begin
with another separator.  All paths of other forms, and all that are not text, are taken as they are. -/
theorem tilde_means_home (hhome : m.home = some home) (hne : home.bytes ≠ []) (path : Path) :
    (path.bytes = [Path.tilde] → LeadsTo m path home) ∧
    (∀ rest : Path, path.bytes = Path.tilde :: Path.separator :: rest.bytes → path.IsText → rest.isAbsolute = false →
      ∃ resolved, LeadsTo m path resolved ∧
        resolved.bytes = (if home.bytes.getLast? = some Path.separator then home.bytes ++ rest.bytes
          else home.bytes ++ Path.separator :: rest.bytes) ∧
        home.components <+: resolved.components) ∧
    (¬ path.IsText ∨ path.bytes ≠ [Path.tilde] ∧ ¬ [Path.tilde, Path.separator] <+: path.bytes →
      LeadsTo m path path) := by
  obtain ⟨bytes⟩ := path
  refine ⟨?_, ?_, ?_⟩
  · rintro rfl
    apply leadsTo_of_expand?
    rw [Path.expand?_tilde, hhome]
  · rintro rest rfl htext hrelative
    refine ⟨home.join rest, leadsTo_of_expand? ?_, Path.bytes_join hne hrelative,
      Path.components_prefix_join hne hrelative⟩
    rw [Path.expand?_below _ htext, hhome]
    rfl
  · rintro (htext | ⟨htilde, hbelow⟩)
    · exact leadsTo_of_expand? (Path.expand?_of_not_isText _ htext)
    · exact leadsTo_of_expand? (Path.expand?_of_no_tilde _ htilde hbelow)

/-- A home directory that ends with a separator, the directory itself within a path, and a tilde that belongs to a
name. -/
theorem tilde_means_home_agent :
    let home := Path.ofString "/home/agent/"
    let m : Machine := { Machine.ofFile "/home/agent/relay.conf" "agentPath=~/lib/agent.so" 0 with home := some home }
    m.home = some home ∧ home.bytes ≠ [] ∧ LeadsTo m (.ofString "~") home ∧
      LeadsTo m (.ofString "~/./relay.conf") (.ofString "/home/agent/./relay.conf") ∧
      home.components <+: (Path.ofString "/home/agent/./relay.conf").components ∧
      LeadsTo m (.ofString "~agent/relay.conf") (.ofString "~agent/relay.conf") := by
  intro home m
  have hhome : m.home = some home := rfl
  have hne : home.bytes ≠ [] := by decide +kernel
  have hbytes : (Path.ofString "~/./relay.conf").bytes =
      Path.tilde :: Path.separator :: (Path.ofString "./relay.conf").bytes := by decide +kernel
  obtain ⟨resolved, hleads, hresolved, hprefix⟩ :=
    (tilde_means_home hhome hne _).2.1 (.ofString "./relay.conf") hbytes ⟨_, rfl⟩ (by decide +kernel)
  obtain rfl : resolved = .ofString "/home/agent/./relay.conf" := by
    obtain ⟨bytes⟩ := resolved
    exact congrArg Path.mk (hresolved.trans (by decide +kernel))
  refine ⟨hhome, hne, (tilde_means_home hhome hne _).1 (by decide +kernel), hleads, hprefix, ?_⟩
  exact (tilde_means_home hhome hne _).2.2 (.inr (by decide +kernel))

/-- A tilde and a separator in front of a byte that is no text do not lead below the home directory. -/
theorem not_forall_tilde_means_home :
    ¬ ∀ (m : Machine) (home path rest : Path), m.home = some home → home.bytes ≠ [] →
      path.bytes = Path.tilde :: Path.separator :: rest.bytes →
      ∃ resolved, LeadsTo m path resolved ∧ home.components <+: resolved.components := by
  intro h
  let noLibraries : Linker := ⟨fun _ => .error "no such library"⟩
  let m : Machine := ⟨some (.ofString "home"), fun _ => .error .notFound, noLibraries, fun _ _ => 0⟩
  let path : Path := ⟨[Path.tilde, Path.separator, 0xFF]⟩
  obtain ⟨resolved, hleads, hprefix⟩ := h m (.ofString "home") path ⟨[0xFF]⟩ rfl (by decide +kernel) rfl
  -- there is no file at all, so the fault names the path that was tried
  have htried : (load m path).answer = .error (.config (.unreadable path .notFound)) := by decide +kernel
  rw [hleads.as_configuration, readAt_of_readText_error (Machine.readText_of_error rfl)] at htried
  have hsame : resolved = path := by
    injection htried with hfault
    injection hfault with hcause
    injection hcause
  rw [hsame] at hprefix
  revert hprefix
  decide +kernel

end Config

end AgentRelay
