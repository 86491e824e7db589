import Bandwidth.Backend
import Bandwidth.Benchmark.Plan
import Bandwidth.Benchmark.Summary
import Bandwidth.Element.Native
import Bandwidth.Json.Codec

/-!
# Documents of the library's types

The parameters and results of a run have a form as JSON documents. The fields of a record are written in the order in
which they are named here.
-/

namespace Bandwidth

open Json (Codec)

instance : Codec Residency := .ofNames Residency.all Residency.tag

instance : Codec Precision := .ofNames [.single, .double] Precision.tag

instance : Codec Kernel := .ofNames Kernel.all Kernel.tag

instance : Codec Backend := .ofNames [.auto, .cpu, .cuda] Backend.tag

instance : Codec Selection := .ofNames [.all, .triadOnly, .nstreamOnly] Selection.tag

instance : Codec ByteUnit := .ofNames [.megabytes, .mebibytes] ByteUnit.tag

instance : Codec StreamConfig where
  toJson config := .record
    [("array_size", .word config.arraySize), ("device_index", .word config.deviceIndex),
      ("residency", Codec.toJson config.residency)]
  ofJson? document := do
    match ← document.fields? ["array_size", "device_index", "residency"] with
    | [arraySize, deviceIndex, residency] => return ⟨← arraySize.word?, ← deviceIndex.word?, ← Codec.ofJson? residency⟩
    | _ => none

instance : Codec Geometry where
  toJson geometry := .record [("grid_size", .word geometry.grid), ("group_size", .word geometry.group)]
  ofJson? document := do
    match ← document.fields? ["grid_size", "group_size"] with
    | [grid, group] => return ⟨← grid.word?, ← group.word?⟩
    | _ => none

instance : Codec Description where
  toJson device := .record
    [("index", .word device.index), ("name", .text device.name), ("compute_units", .word device.units),
      ("total_memory", .word device.memory)]
  ofJson? document := do
    match ← document.fields? ["index", "name", "compute_units", "total_memory"] with
    | [index, name, units, memory] => return ⟨← index.word?, ← name.text?, ← units.word?, ← memory.word?⟩
    | _ => none

instance : Codec (Plan Float) where
  toJson plan := .record
    [("num_times", .word plan.iterations), ("mode", Codec.toJson plan.selection),
      ("init", .array (plan.initial.toList.map Json.measure))]
  ofJson? document := do
    match ← document.fields? ["num_times", "mode", "init"] with
    | [iterations, selection, initial] =>
        match ← initial.items? 3 with
        | [a, b, c] =>
            return ⟨← iterations.word?, ← Codec.ofJson? selection, ⟨← a.measure?, ← b.measure?, ← c.measure?⟩⟩
        | _ => none
    | _ => none

def Summary.members (summary : Summary Float) : List (String × Json) :=
  [("kernel", Codec.toJson summary.kernel), ("bytes", .word summary.bytes), ("flops", .word summary.flops),
    ("min_secs", .measure summary.least), ("max_secs", .measure summary.greatest), ("avg_secs", .measure summary.mean),
    ("samples", .word summary.samples)]

instance : Codec (Summary Float) where
  toJson summary := .record summary.members
  ofJson? document := do
    match ← document.fields? ["kernel", "bytes", "flops", "min_secs", "max_secs", "avg_secs", "samples"] with
    | [kernel, bytes, flops, least, greatest, mean, samples] =>
        return {
          kernel := ← Codec.ofJson? kernel
          bytes := ← bytes.word?
          flops := ← flops.word?
          least := ← least.measure?
          greatest := ← greatest.measure?
          mean := ← mean.measure?
          samples := ← samples.word? }
    | _ => none

end Bandwidth
