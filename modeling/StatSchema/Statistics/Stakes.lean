import StatSchema.Catalog.Basic

/-!
# `StatSchema.Statistics.Stakes` — stakers and validators

## Contents
- `stakeSummary`: per staker. `stakingSummary`: of all stakes. `validatorStats`: per validator.
- `objects`: all three.
-/

namespace StatSchema.Statistics.Stakes

/-- What each staker has staked and earned; a staker with only one of the two is kept. -/
def stakeSummary : SchemaObject :=
  { SchemaObject.materialized "my_stake_summary" .keyed .medium with
    uniqueKey := ["staker_pkid"]
    baseTables := ["stake_reward", "stake_entry"]
    body := "
SELECT COALESCE(rewards.staker_pkid, stakes.staker_pkid) AS staker_pkid,
    COALESCE(rewards.total_rewards_nanos, 0) AS total_rewards_nanos,
    COALESCE(stakes.total_stake_nanos, 0) AS total_stake_nanos
FROM (
    SELECT staker_pkid, SUM(reward_nanos) AS total_rewards_nanos
    FROM stake_reward
    GROUP BY staker_pkid
) rewards
FULL OUTER JOIN (
    SELECT staker_pkid, SUM(stake_amount_nanos) AS total_stake_nanos
    FROM stake_entry
    GROUP BY staker_pkid
) stakes ON stakes.staker_pkid = rewards.staker_pkid"
    directives :=
      [.rename "myStakeSummary", .unique ["staker_pkid"], .hideListings,
       .relation ⟨["staker_pkid"], "account", ["pkid"], "stakeSummaries", "staker"⟩] }

/-- The figures of all stakes together. -/
def stakingSummary : SchemaObject :=
  { SchemaObject.materialized "staking_summary" .singleton .light with
    baseTables := ["validator_entry", "epoch_entry", "leader_schedule_entry", "stake_entry"]
    body := "
SELECT 0 AS id,
    stake.global_stake_amount_nanos,
    stake.validator_count,
    epoch.current_epoch_number,
    leader.epochs_in_leader_schedule,
    stakers.staker_count
FROM (
    SELECT COALESCE(SUM(total_stake_amount_nanos), 0) AS global_stake_amount_nanos,
        COUNT(*) AS validator_count
    FROM validator_entry
) stake
CROSS JOIN (
    SELECT COALESCE(MAX(epoch_number), 0) AS current_epoch_number FROM epoch_entry
) epoch
CROSS JOIN (
    SELECT COUNT(DISTINCT snapshot_at_epoch_number) AS epochs_in_leader_schedule
    FROM leader_schedule_entry
) leader
CROSS JOIN (
    SELECT COUNT(DISTINCT staker_pkid) AS staker_count FROM stake_entry
) stakers"
    directives := [.rename "stakingSummary"] }

/-- The figures of each validator; one still in jail has spent there the epochs since it was jailed. -/
def validatorStats : SchemaObject :=
  { SchemaObject.materialized "validator_stats" .keyed .medium with
    uniqueKey := ["validator_pkid"]
    baseTables :=
      ["validator_entry", "epoch_entry", "jailed_history_event", "leader_schedule_entry",
       "stake_reward"]
    body := "
WITH total_stake AS (
    SELECT NULLIF(SUM(total_stake_amount_nanos), 0) AS nanos FROM validator_entry
),
current_epoch AS (
    SELECT COALESCE(MAX(epoch_number), 0) AS epoch_number FROM epoch_entry
),
jail AS (
    SELECT validator_pkid,
        SUM(unjailed_at_epoch_number - jailed_at_epoch_number) AS resolved_epochs
    FROM jailed_history_event
    WHERE unjailed_at_epoch_number IS NOT NULL
    GROUP BY validator_pkid
),
leader AS (
    SELECT validator_pkid, COUNT(*) AS appearances
    FROM leader_schedule_entry
    GROUP BY validator_pkid
),
leader_total AS (
    SELECT NULLIF(COUNT(*), 0) AS appearances FROM leader_schedule_entry
),
rewards AS (
    SELECT validator_pkid, SUM(reward_nanos) AS reward_nanos
    FROM stake_reward
    GROUP BY validator_pkid
)
SELECT ve.validator_pkid,
    RANK() OVER (ORDER BY ve.total_stake_amount_nanos DESC) AS validator_rank,
    COALESCE(ve.total_stake_amount_nanos * 100 / ts.nanos, 0) AS percent_total_stake,
    COALESCE(j.resolved_epochs, 0)
        + CASE
            WHEN ve.jailed_at_epoch_number > 0 THEN ce.epoch_number - ve.jailed_at_epoch_number
            ELSE 0
        END AS epochs_in_jail,
    COALESCE(l.appearances, 0) AS leader_schedule_count,
    COALESCE(COALESCE(l.appearances, 0)::NUMERIC / lt.appearances, 0) AS leader_schedule_fraction,
    COALESCE(r.reward_nanos, 0) AS total_stake_rewards_nanos
FROM validator_entry ve
CROSS JOIN total_stake ts
CROSS JOIN current_epoch ce
CROSS JOIN leader_total lt
LEFT JOIN jail j ON j.validator_pkid = ve.validator_pkid
LEFT JOIN leader l ON l.validator_pkid = ve.validator_pkid
LEFT JOIN rewards r ON r.validator_pkid = ve.validator_pkid"
    directives :=
      [.rename "validatorStats", .unique ["validator_pkid"],
       .relation ⟨["validator_pkid"], "account", ["pkid"], "validatorStats", "validator"⟩] }

/-- The objects of the group, in creation order. -/
def objects : List SchemaObject :=
  [stakeSummary, stakingSummary, validatorStats]

end StatSchema.Statistics.Stakes
