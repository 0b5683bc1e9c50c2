/-!
The tools that a step may name.
-/

namespace Toolflow

inductive ToolName where
  | searchTrades
  | getTradeStatistics
  | findSimilarTrades
  | queryDatabase
  | fetchEconomicEvents
  | analyzeEconomicEvents
  | extractTradeIds
  | convertTradeIdsToCards
  | convertTradeIdsToData
deriving DecidableEq

namespace ToolName

def all : List ToolName :=
  [.searchTrades, .getTradeStatistics, .findSimilarTrades, .queryDatabase, .fetchEconomicEvents,
   .analyzeEconomicEvents, .extractTradeIds, .convertTradeIdsToCards, .convertTradeIdsToData]

/-- The name as callers write it. -/
def text : ToolName → String
  | .searchTrades => "searchTrades"
  | .getTradeStatistics => "getTradeStatistics"
  | .findSimilarTrades => "findSimilarTrades"
  | .queryDatabase => "queryDatabase"
  | .fetchEconomicEvents => "fetchEconomicEvents"
  | .analyzeEconomicEvents => "analyzeEconomicEvents"
  | .extractTradeIds => "extractTradeIds"
  | .convertTradeIdsToCards => "convertTradeIdsToCards"
  | .convertTradeIdsToData => "convertTradeIdsToData"

def ofText? (s : String) : Option ToolName :=
  all.find? fun name => name.text == s

@[simp]
theorem ofText?_text (name : ToolName) : ofText? name.text = some name := by
  cases name <;> decide

end ToolName

end Toolflow
