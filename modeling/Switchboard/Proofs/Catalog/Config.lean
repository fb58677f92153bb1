import Switchboard.Catalog.Config
import Switchboard.Proofs.Record.Yields

/-!
# Configurations read back

Sort orders read back from their wire form whatever they are. A match reads back if it is in normal form
(`Match.Normal`): its value is, and its operator is not one that the program knows under the name of an unknown one.
Every match that was read is so (`Match.yields_decode`), and with it its option, filter and configuration
(`Config.yields_decode`); so these read back too (`Config.decode_toJson`).
-/

namespace Switchboard.Catalog

open Record
open Record.Shape (Reads reads_absent reads_defaulted reads_optional reads_optional_some reads_optional_text
  reads_required yields_defaulted yields_optional yields_required)

/-! ## Matches -/

namespace Operator

/-- An operator that its name stands for. -/
def Normal (o : Operator) : Prop := ofName o.name = o

theorem normal_ofName (name : String) : (ofName name).Normal := by
  unfold ofName
  split
  · rfl
  split
  · rfl
  split
  · rfl
  next notEq notIn notContains =>
    show ofName name = unknown name
    rw [ofName, if_neg notEq, if_neg notIn, if_neg notContains]

theorem yields_decode : Decoder.Yields decode Normal := by
  intro v o h
  cases v with
  | str name =>
    cases h
    exact normal_ofName name
  | null | bool | num | arr | obj | unreadable => cases h

theorem decode_toJson {o : Operator} (h : o.Normal) : decode o.toJson = .ok o := congrArg Except.ok h

end Operator

namespace Match

/-- A match that is the same after it was written and read. -/
structure Normal (m : Match) : Prop where
  operator : m.operator.Normal
  value : m.value.Normal

theorem yields_decode : Decoder.Yields decode Normal := by
  refine Shape.Yields.decoder ?_ _
  refine .seq ?_ (yields_required yields_anything)
  refine .seq ?_ (yields_required Operator.yields_decode)
  exact .map_any fun _ _ operator _ value => ⟨operator, value⟩

theorem decode_toJson {m : Match} (h : m.Normal) : decode m.toJson = .ok m := by
  obtain ⟨field, operator, value⟩ := m
  apply Reads.decode_obj
  · refine .seq ?_ (reads_required rfl (anything_normal h.value))
    refine .seq ?_ (reads_required rfl (Operator.decode_toJson h.operator))
    exact .map (reads_required rfl rfl)
  · exact (by decide : shape.names.Nodup)

end Match

/-! ## Filters -/

namespace FilterOption

/-- An option whose match, if it has one, is in normal form. -/
def Normal (o : FilterOption) : Prop := ∀ m ∈ o.rule, m.Normal

theorem yields_decode : Decoder.Yields decode Normal := by
  refine Shape.Yields.decoder ?_ _
  refine .seq ?_ (yields_optional Match.yields_decode)
  exact .seq_any (.seq_any (.map_any fun _ _ _ _ rule => rule))

theorem decode_toJson {o : FilterOption} (h : o.Normal) : decode o.toJson = .ok o := by
  obtain ⟨id, label, icon, rule⟩ := o
  apply Reads.decode_obj
  · refine .seq ?_ (reads_optional_some rfl (fun m hm => Match.decode_toJson (h m hm)) nofun)
    refine .seq ?_ (reads_optional_text rfl)
    refine .seq ?_ (reads_required rfl rfl)
    exact .map (reads_required rfl rfl)
  · exact (by decide : shape.names.Nodup)

end FilterOption

namespace Filter

/-- A filter all of whose options are in normal form. -/
def Normal (f : Filter) : Prop := ∀ o ∈ f.options, o.Normal

theorem yields_decode : Decoder.Yields decode Normal := by
  refine Shape.Yields.decoder ?_ _
  refine .seq ?_ (yields_defaulted FilterOption.yields_decode.list nofun)
  exact .seq_any (.seq_any (.map_any fun _ _ _ _ options => options))

theorem decode_toJson {f : Filter} (h : f.Normal) : decode f.toJson = .ok f := by
  obtain ⟨id, label, kind, options⟩ := f
  have each : list FilterOption.decode (.arr (options.map FilterOption.toJson)) = .ok options :=
    list_arr fun o ho => FilterOption.decode_toJson (h o ho)
  apply Reads.decode_obj
  · refine .seq ?_ (reads_defaulted rfl each)
    refine .seq ?_ (reads_defaulted rfl rfl)
    refine .seq ?_ (reads_required rfl rfl)
    exact .map (reads_required rfl rfl)
  · exact (by decide : shape.names.Nodup)

end Filter

/-! ## Sort orders -/

theorem Direction.decode_toJson (d : Direction) : decode d.toJson = .ok d := by cases d <;> rfl

theorem Nulls.decode_toJson (n : Nulls) : decode n.toJson = .ok n := by cases n <;> rfl

theorem Rule.decode_toJson (r : Rule) : decode r.toJson = .ok r := by
  obtain ⟨field, direction, nulls⟩ := r
  apply Reads.decode_obj
  · refine .seq ?_ (reads_optional rfl Nulls.decode_toJson nofun)
    refine .seq ?_ (reads_defaulted rfl direction.decode_toJson)
    exact .map (reads_required rfl rfl)
  · exact (by decide : shape.names.Nodup)

theorem SortOption.decode_toJson (s : SortOption) : decode s.toJson = .ok s := by
  obtain ⟨id, label, rules⟩ := s
  have each : list Rule.decode (.arr (rules.map Rule.toJson)) = .ok rules := list_arr fun r _ => r.decode_toJson
  apply Reads.decode_obj
  · refine .seq ?_ (reads_defaulted rfl each)
    refine .seq ?_ (reads_required rfl rfl)
    exact .map (reads_required rfl rfl)
  · exact (by decide : shape.names.Nodup)

/-! ## The whole configuration -/

namespace Config

/-- A configuration all of whose filters are in normal form. -/
def Normal (c : Config) : Prop := ∀ f ∈ c.filters, f.Normal

theorem yields_decode : Decoder.Yields decode Normal := by
  refine Shape.Yields.decoder ?_ _
  refine .seq_any (.seq_any (.seq_any ?_))
  exact .map (yields_defaulted Filter.yields_decode.list nofun) fun _ filters _ _ _ => filters

theorem decode_toJson {c : Config} (h : c.Normal) : decode c.toJson = .ok c := by
  obtain ⟨filters, sortOptions, defaultSort, itemsPerPage⟩ := c
  have filters_read : list Filter.decode (.arr (filters.map Filter.toJson)) = .ok filters :=
    list_arr fun f hf => Filter.decode_toJson (h f hf)
  have sorts_read : list SortOption.decode (.arr (sortOptions.map SortOption.toJson)) = .ok sortOptions :=
    list_arr fun s _ => s.decode_toJson
  apply Reads.decode_obj
  · refine .seq ?_ (reads_defaulted rfl (u32_int itemsPerPage))
    refine .seq ?_ (reads_defaulted rfl rfl)
    refine .seq ?_ (reads_defaulted rfl sorts_read)
    exact .map (reads_defaulted rfl filters_read)
  · exact (by decide : shape.names.Nodup)

end Config

theorem Home.decode_toJson (h : Home) : decode h.toJson = .ok h := by
  obtain ⟨featured⟩ := h
  apply Reads.decode_obj
  · exact .map (reads_defaulted rfl (list_ofTextList featured))
  · exact (by decide : shape.names.Nodup)

end Switchboard.Catalog
