/-
# Triggers

What sets off a workflow: an event of the shop, a person, or a schedule.

Key definitions: `TriggerKind`, `Trigger`, `TriggerInfo.catalog`.
-/
import Automation.Condition
import Automation.Schedule

namespace Automation

inductive TriggerKind where
  | saleCreated
  | saleCompleted
  | saleVoided
  | productCreated
  | productUpdated
  | productLowStock
  | customerCreated
  | customerVip
  | employeeClockIn
  | employeeClockOut
  | inventoryLow
  | creditOverdue
  | manual
  | schedule
deriving DecidableEq, Repr

namespace TriggerKind

def all : List TriggerKind :=
  [.saleCreated, .saleCompleted, .saleVoided, .productCreated, .productUpdated, .productLowStock,
    .customerCreated, .customerVip, .employeeClockIn, .employeeClockOut, .inventoryLow,
    .creditOverdue, .manual, .schedule]

def name : TriggerKind → String
  | .saleCreated => "sale.created"
  | .saleCompleted => "sale.completed"
  | .saleVoided => "sale.voided"
  | .productCreated => "product.created"
  | .productUpdated => "product.updated"
  | .productLowStock => "product.low_stock"
  | .customerCreated => "customer.created"
  | .customerVip => "customer.vip"
  | .employeeClockIn => "employee.clock_in"
  | .employeeClockOut => "employee.clock_out"
  | .inventoryLow => "inventory.low"
  | .creditOverdue => "credit.overdue"
  | .manual => "manual"
  | .schedule => "schedule"

def ofName? (s : String) : Option TriggerKind := all.find? (·.name == s)

end TriggerKind

/-- A trigger fires if all its conditions hold of the event. -/
structure Trigger where
  kind : TriggerKind
  conditions : List Condition := []
  schedule : Option Schedule := none

/-- A trigger that is offered to authors, with the fields of its events. -/
structure TriggerInfo where
  kind : TriggerKind
  label : String
  description : String
  availableFields : List String := []

def TriggerInfo.catalog : List TriggerInfo := [
  { kind := .saleCreated, label := "Sale Created"
    description := "Triggered when a new sale is created"
    availableFields := ["total", "items", "customerId", "employeeId", "status"] },
  { kind := .saleCompleted, label := "Sale Completed"
    description := "Triggered when a sale is completed"
    availableFields := ["total", "items", "customerId", "employeeId", "paymentMethod"] },
  { kind := .productLowStock, label := "Low Stock Alert"
    description := "Triggered when product quantity falls below threshold"
    availableFields := ["name", "sku", "quantity", "lowStockThreshold"] },
  { kind := .customerCreated, label := "New Customer"
    description := "Triggered when a new customer is created"
    availableFields := ["name", "email", "phone"] },
  { kind := .customerVip, label := "VIP Customer"
    description := "Triggered when customer spending crosses VIP threshold"
    availableFields := ["name", "email", "totalSpent", "purchaseCount"] },
  { kind := .manual, label := "Manual Trigger", description := "Manually triggered workflow" },
  { kind := .schedule, label := "Scheduled", description := "Runs on a schedule" }]

end Automation
