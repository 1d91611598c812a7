/-
The listing of all metrics as a page: two tables with one row a metric, in the order
of the names.
-/
import Telemetry.Metric.Snapshot
import Telemetry.Text.Markup

namespace Telemetry.Service.Page

def row (name text : String) : String :=
  "<tr><td>" ++ Text.Markup.escape name ++ "</td><td>" ++ text ++ "</td></tr>\n"

def opening : String :=
  "<!DOCTYPE html>\n<html><head><meta charset=\"utf-8\"><title>tally</title></head><body>\n" ++
    "<h2>Gauges</h2>\n<table>\n"

def middle : String :=
  "</table>\n<h2>Counters</h2>\n<table>\n"

def closing : String :=
  "</table>\n</body></html>\n"

def rows {α : Type} (text : α → String) (entries : List (String × α)) : String :=
  String.join (entries.map fun (name, x) => row name (text x))

def render (s : Snapshot) : String :=
  opening ++ rows Binary64.plain s.gauges.entries ++ middle ++
    rows (fun d => toString (Int64.toInt d)) s.counters.entries ++ closing

end Telemetry.Service.Page
