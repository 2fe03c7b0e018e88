import AgentRelay.Plan
import AgentRelay.Proofs.Config.Flattening
import AgentRelay.Proofs.Config.Lines
import AgentRelay.Proofs.Toml.Flat
import AgentRelay.Proofs.Utf8.Order

set_option autoImplicit false

/-!
# The two formats of a configuration

The same pairs can be written in lines and in TOML.  Lines keep the order in which they are written; a TOML document is
sorted by its keys, whatever order it is written in.  So both give the same configuration when the lines are sorted,
and they have to be sorted by the bytes of their keys (`formats_agree`).

The formats restrict different things.  A line takes every quotation mark, backslash and control character as it is, but
it cannot hold what ends it or what ends its key; in TOML everything can be written, but in many ways.  The statement
asks for the restrictions of lines alone, and holds for every way of writing in TOML.
-/

namespace AgentRelay.Config

/-- A table of texts becomes options, pair by pair. -/
theorem optionsOf_texts (pairs : List Pair) : optionsOf (Toml.texts pairs) = .ok (Options.ofPairs pairs) := by
  have hpairs : BecomesPairs (Toml.texts pairs) pairs :=
    List.forall₂_map_left_iff.2 (List.forall₂_same.2 fun pair _ => ⟨rfl, .string pair.2⟩)
  rw [optionsOf, (mapM_pairOf_eq_ok_iff ..).2 hpairs]
  rfl

/-- A document of texts becomes options in the order of its keys. -/
theorem ofToml_of_writes {pairs sorted : List Pair} {document : String} (h : Toml.Writes pairs document.toList)
    (hdistinct : (pairs.map Prod.fst).Nodup) (hperm : sorted.Perm pairs)
    (hsorted : sorted.Pairwise fun a b => a.1 ≤ b.1) :
    ofToml document = .ok ⟨none, Options.ofPairs sorted⟩ := by
  rw [ofToml, Toml.parse_of_writes h hdistinct hperm hsorted]
  exact congrArg (Except.map fun options => (⟨none, options⟩ : Config)) (optionsOf_texts sorted)

/-- Pairs with distinct keys that can stand on a line have a TOML document.  Every such document, in whatever order and
with whatever escapes it is written, is read as the same configuration as the lines that are sorted by the bytes of the
keys, and this configuration holds the sorted pairs.  So the formats name the same agent, and give the same plan for all
options of the host. -/
theorem formats_agree {pairs sorted : List Pair} (hdistinct : (pairs.map Prod.fst).Nodup)
    (hfits : ∀ pair ∈ pairs, FitsLine pair) (hperm : sorted.Perm pairs)
    (hsorted : sorted.Pairwise fun a b => Utf8.encode a.1 ≤ Utf8.encode b.1) :
    (∃ document : String, Toml.Writes pairs document.toList) ∧
      ∀ document : String, Toml.Writes pairs document.toList →
        (∃ config : Config, ofLines (lineFile sorted) = .ok config ∧ ofToml document = .ok config ∧
          config.options.entries = sorted) ∧
        (∀ m : Machine,
          (ofLines (lineFile sorted)).bind (fun config => config.agentPath m) =
            (ofToml document).bind fun config => config.agentPath m) ∧
        ∀ (m : Machine) (host : Options),
          (ofLines (lineFile sorted)).bind (Plan.ofParts m host) = (ofToml document).bind (Plan.ofParts m host) := by
  constructor
  · obtain ⟨text, htext⟩ := Toml.exists_writes pairs
    exact ⟨String.ofList text, by rwa [String.toList_ofList]⟩
  · intro document hdocument
    have hlines : ofLines (lineFile sorted) = .ok ⟨none, Options.ofPairs sorted⟩ :=
      ofLines_lineFile fun pair hpair => hfits pair (hperm.mem_iff.1 hpair)
    -- the table is sorted by the characters of its keys
    have hkeys : sorted.Pairwise fun a b => a.1 ≤ b.1 := hsorted.imp fun h => (Utf8.encode_le_iff _ _).1 h
    have htoml := ofToml_of_writes hdocument hdistinct hperm hkeys
    have hdistinctSorted : (sorted.map Prod.fst).Nodup := (hperm.map Prod.fst).nodup_iff.2 hdistinct
    refine ⟨⟨_, hlines, htoml, Options.entries_ofPairs hdistinctSorted⟩, ?_, ?_⟩
    · intro m
      rw [hlines, htoml]
    · intro m host
      rw [hlines, htoml]

/-- An empty key with an empty value, a value of quotation marks, a backslash and both delimiters of an option string,
and a value with a CR inside, in a document that uses both kinds of quotation marks, both kinds of escapes and both kinds
of line ends. -/
theorem formats_agree_escaped :
    let pairs : List Pair := [("😀", "a\rb"), ("agentPath", "\"x\\y\",c=d"), ("", "")]
    let sorted : List Pair := [("", ""), ("agentPath", "\"x\\y\",c=d"), ("😀", "a\rb")]
    let document : String := "\"😀\" = \"a\\rb\"\n'agentPath'=\"\\u0022x\\\\y\\\",c=d\"\r\n\"\"=\t\"\"\n"
    Toml.Writes pairs document.toList ∧
      ∃ config : Config, ofLines "=\nagentPath=\"x\\y\",c=d\n😀=a\rb\n" = .ok config ∧ ofToml document = .ok config ∧
        config.options.entries = sorted := by
  intro pairs sorted document
  have hfirstKey : Toml.SpellsKey "😀" ('"' :: ((['😀'] ++ []) ++ ['"'])) := .basic (.cons (.plain rfl) .nil)
  have hsecondKey : Toml.SpellsKey "agentPath" ('\'' :: ("agentPath".toList ++ ['\''])) := .literal (by decide)
  have hemptyKey : Toml.SpellsKey "" ('"' :: ([] ++ ['"'])) := .basic .nil
  have hfirst : Toml.SpellsText "a\rb".toList (['a'] ++ (['\\', 'r'] ++ (['b'] ++ []))) :=
    .cons (.plain rfl) (.cons (.letter (by decide)) (.cons (.plain rfl) .nil))
  have hsecond : Toml.SpellsText "\"x\\y\",c=d".toList (['\\', 'u', '0', '0', '2', '2'] ++ (['x'] ++ (['\\', '\\'] ++
      (['y'] ++ (['\\', '"'] ++ ([','] ++ (['c'] ++ (['='] ++ (['d'] ++ []))))))))) :=
    .cons (.number (by decide) (by decide) (by decide)) (.cons (.plain rfl) (.cons (.letter (by decide))
      (.cons (.plain rfl) (.cons (.letter (by decide)) (.cons (.plain rfl) (.cons (.plain rfl) (.cons (.plain rfl)
        (.cons (.plain rfl) .nil))))))))
  have hempty : Toml.SpellsText "".toList [] := .nil
  have hnone : Toml.AllGaps [] := rfl
  have hblank : Toml.AllGaps [' '] := rfl
  have htab : Toml.AllGaps ['\t'] := rfl
  have hwritten : Toml.Writes pairs document.toList := by
    have hparts := Toml.Writes.cons (.line hfirstKey hblank hblank hfirst hnone (.head _))
      (.cons (.line hsecondKey hnone hnone hsecond hnone (.tail _ (.head _)))
        (.cons (.line hemptyKey hnone htab hempty hnone (.head _)) .nil))
    refine Eq.subst (motive := Toml.Writes pairs) ?_ hparts
    decide +kernel
  have hlines : lineFile sorted = "=\nagentPath=\"x\\y\",c=d\n😀=a\rb\n" := by decide +kernel
  obtain ⟨_, hagree⟩ := @formats_agree pairs sorted (by decide) (by decide) (by decide) (by decide +kernel)
  exact ⟨hwritten, hlines ▸ (hagree document hwritten).1⟩

end AgentRelay.Config
