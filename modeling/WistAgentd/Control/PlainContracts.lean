/- # Control.PlainContracts -- one realisation of the contracts crate

Specs are written in a self-delimiting code over two digits; file sources are the absolute paths,
two exporters are known. It has what is asked of the contracts (`plainContracts_lawful`), so that
can be met. -/
import WistAgentd.Control.Work
import WistAgentd.Telemetry.LineCodec

namespace WistAgentd.Control
open Theory Telemetry
open List
set_option autoImplicit false

def filtersCodec : Codec ContainerFilters :=
  (stringCodec.list.pair (stringCodec.list.pair (stringCodec.list.pair stringCodec.list))).via
    (fun filters => (filters.namespaceIn, filters.podNotIn, filters.nameIn, filters.nameNotIn))
    (fun (namespaceIn, podNotIn, nameIn, nameNotIn) =>
      some { namespaceIn, podNotIn, nameIn, nameNotIn })
    (fun _ => rfl)
    fun raw filters unpacked => by rw [← Option.some.inj unpacked]

def sourceCodec : Codec WorkSpecSource :=
  ((stringCodec.pair (stringCodec.pair stringCodec)).pair
    (stringCodec.list.pair (filtersCodec.pair stringCodec.list))).via
    (fun source => ((source.kind, source.target, source.multiline), source.excludeGlobs,
      source.filters, source.dropIfContains))
    (fun ((kind, target, multiline), excludeGlobs, filters, dropIfContains) =>
      some { kind, target, multiline, excludeGlobs, filters, dropIfContains })
    (fun _ => rfl)
    fun raw source unpacked => by rw [← Option.some.inj unpacked]

def unitCodec : Codec WorkSpecUnit :=
  ((stringCodec.pair stringCodec).pair
    ((stringCodec.pair stringCodec).pair sourceCodec.list)).via
    (fun unit => ((unit.unitId, unit.capability), (unit.ruleRef, unit.requiresPrivilege),
      unit.sources))
    (fun ((unitId, capability), (ruleRef, requiresPrivilege), sources) =>
      some { unitId, capability, ruleRef, requiresPrivilege, sources })
    (fun _ => rfl)
    fun raw unit unpacked => by rw [← Option.some.inj unpacked]

/-- The digits of a spec, as text. -/
def plainText (spec : WorkSpec) : String :=
  String.ofList ((unitCodec.list.encode spec.units).map fun byte => Char.ofNat byte.toNat)

def plainSpec (text : String) : Except String WorkSpec :=
  match unitCodec.list.readAll (text.toList.map fun c => UInt8.ofNat c.toNat) with
  | some units => .ok { units }
  | none => .error "not a spec"

theorem plainSpec_plainText (spec : WorkSpec) : plainSpec (plainText spec) = .ok spec := by
  have digits : ((unitCodec.list.encode spec.units).map fun byte => Char.ofNat byte.toNat).map
      (fun c => UInt8.ofNat c.toNat) = unitCodec.list.encode spec.units := by
    rw [map_map]
    conv_rhs => rw [← map_id (unitCodec.list.encode spec.units)]
    refine map_congr_left fun byte mem => ?_
    rcases unitCodec.list.alphabet spec.units byte mem with rfl | rfl <;> rfl
  rw [plainSpec, plainText, String.toList_ofList, digits, Codec.readAll_encode]

def plainContracts : Contracts where
  parseSpec := plainSpec
  encodeSpec spec := .ok (plainText spec)
  isOutstanding work := work.status == "dispatched"
  fileSources unit := unit.sources.filter (·.kind == "FileGlob")
  isExecutableSource kind target := kind == "FileGlob" && target.toList.head? == some '/'
  isKnownExporter target := target == "dmesg" || target == "journalctl-kernel"
  parseExporterTarget target := some (target, none)
  metricIntervalSeconds _ := none

theorem plainContracts_lawful : plainContracts.Lawful where
  parse_encode spec := ⟨plainText spec, rfl, plainSpec_plainText spec⟩
  dispatched_outstanding work dispatched := by simp [plainContracts, dispatched]

end WistAgentd.Control
